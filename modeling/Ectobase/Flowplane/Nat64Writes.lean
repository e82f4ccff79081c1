import Ectobase.Flowplane.Rewrites

namespace Ectobase.Flowplane

open Shared Option

section

variable {n : Nat} (h : Vector UInt8 n) (v : UInt16)

lemma wordAt_copyAt_same (rel : Nat) (fits : rel + 2 <= n) : wordAt (copyAt h rel (be16 v)) rel = v := by
  rw [wordAt, Vector.getElem?_eq_getElem (by omega), Vector.getElem?_eq_getElem (by omega),
    copyAt_inside h (be16 v) rel rel (by omega) (by omega),
    copyAt_inside h (be16 v) rel (rel + 1) (by omega) (by omega)]
  simp only [Nat.sub_self, Nat.add_sub_cancel_left, getD_some]
  exact fromBeBytes_toBeBytes v

lemma wordAt_copyAt_apart {m : Nat} (src : Vector UInt8 m) (rel k : Nat)
  (apart : k + 2 <= rel \/ rel + m <= k) (fits : k + 2 <= n) : wordAt (copyAt h rel src) k = wordAt h k := by
  rw [wordAt, wordAt, Vector.getElem?_eq_getElem (by omega), Vector.getElem?_eq_getElem (by omega),
    copyAt_outside h src rel k (by omega) (by omega),
    copyAt_outside h src rel (k + 1) (by omega) (by omega), Vector.getElem?_eq_getElem (by omega),
    Vector.getElem?_eq_getElem (by omega)]

end

-- Both translators write an Ethernet header, an IP header behind it and a window behind that.
section

variable {p : Pkt} {n k : Nat} (eth : Vector UInt8 14) (ip : Vector UInt8 n) (long : ethLen + n <= p.length)

include long

lemma length_framed : (splice (splice p 0 eth) ethLen ip).length = p.length := by
  have fixed : ethLen = 14 := rfl
  have first := length_splice p 0 eth (by omega)
  rw [length_splice _ ethLen _ (by omega), first]

lemma readArray_framed_after (start : Nat) (after : ethLen + n <= start) :
  (splice (splice p 0 eth) ethLen ip).readArray k start = p.readArray k start := by
  have fixed : ethLen = 14 := rfl
  have first := length_splice p 0 eth (by omega)
  rw [readArray_splice_apart _ ethLen _ (by omega) k start (.inr after),
    readArray_splice_apart p 0 _ (by omega) k start (.inr (by omega))]

variable (w : Vector UInt8 k) (fits : ethLen + n + k <= p.length)

include fits

lemma framed_header : (splice (splice (splice p 0 eth) ethLen ip) (ethLen + n) w).readArray n ethLen = some ip := by
  have length := length_framed eth ip long
  have first := length_splice p 0 eth (by have fixed : ethLen = 14 := rfl; omega)
  rw [readArray_splice_apart _ _ w (by omega) n ethLen (.inl (by omega)),
    readArray_splice_same _ ethLen _ (by omega)]

lemma framed_word (rel : Nat) (inside : rel + 2 <= k) :
  (splice (splice (splice p 0 eth) ethLen ip) (ethLen + n) w).readU16Be (ethLen + n + rel) = some (wordAt w rel) := by
  have length := length_framed eth ip long
  exact readU16Be_window (readArray_splice_same _ _ w (by omega)) rel inside

lemma framed_ethertype (dst src : Vector UInt8 6) (type : UInt16) :
  (splice (splice (splice p 0 (ethHeader dst src type)) ethLen ip) (ethLen + n) w).readU16Be 12 = some type := by
  have fixed : ethLen = 14 := rfl
  have length := length_framed (ethHeader dst src type) ip long
  have first := length_splice p 0 (ethHeader dst src type) (by omega)
  have eth := readArray_splice_same p 0 (ethHeader dst src type) (by omega)
  rw [readU16Be_splice_apart _ w (by omega) 12 (.inl (by omega)),
    readU16Be_splice_apart _ _ (by omega) 12 (.inl (by omega)),
    show (12 : Nat) = 0 + 12 from rfl, readU16Be_window eth 12 (by decide), ethHeader,
    wordAt_copyAt_same _ _ 12 (by decide)]

end

def egressCheck (x : Nat64Xlate) : UInt16 :=
  tcpUdpV6ToV4 x.oldL4Cksum x.ip6Src x.ip6Dst x.natIpv4 x.ipv4Dst x.l4ProtoV4 x.l4Len x.sport x.natPort

def egressHeaders (p : Pkt) (x : Nat64Xlate) : Pkt :=
  splice (splice p 0 (ethHeader x.ethDst x.ethSrc ethPIp)) ethLen
    (ipv4Header (20 + x.l4Len) x.hopLimit x.l4ProtoV4 x.natIpv4 x.ipv4Dst)

lemma readArray_egressHeaders_after {p : Pkt} (long : ethLen + 20 <= p.length) (x : Nat64Xlate)
  (k start : Nat) (after : ethLen + 20 <= start) :
  (egressHeaders p x).readArray k start = p.readArray k start := readArray_framed_after _ _ long start after

variable {p out : Pkt} {x : Nat64Xlate}

lemma nat64EgressWrite_cases (written : nat64EgressWrite p ethLen true x = some out) :
  ethLen + 20 <= p.length /\ ((x.l4ProtoV4 = ipprotoIcmp /\ ∃ h, p.readArray 8 (ethLen + 20) = some h /\
        out = splice (egressHeaders p x) (ethLen + 20) (egressIcmp x h)) \/
      (x.l4ProtoV4 = ipprotoTcp /\ ∃ h, p.readArray 18 (ethLen + 20) = some h /\
        out = splice (egressHeaders p x) (ethLen + 20) (copyAt (copyAt h 0 (be16 x.natPort)) 16 (be16 (egressCheck x)))) \/
      (x.l4ProtoV4 = ipprotoUdp /\ ∃ h, p.readArray 8 (ethLen + 20) = some h /\ out = splice (egressHeaders p x) (ethLen + 20)
          (copyAt (copyAt h 0 (be16 x.natPort)) 6 (be16 (egressCheck x))))) := by
  simp only [nat64EgressWrite, if_true, bind_eq_bind, bind_eq_some_iff] at written
  obtain ⟨p1, eth, p2, ip, l4⟩ := written
  have fixed : ethLen = 14 := rfl
  obtain ⟨within1, rfl⟩ := (writeArray_eq_some p _ _ p1).mp eth
  obtain ⟨within2, rfl⟩ := (writeArray_eq_some _ _ _ p2).mp ip
  have start : ethLen - ethLen = 0 := Nat.sub_self _
  rw [start] at within1 within2 l4
  rw [length_splice p 0 _ (by omega)] at within2
  refine ⟨within2, ?_⟩
  change nat64EgressL4 (egressHeaders p x) (ethLen + 20) x = some out at l4
  unfold nat64EgressL4 at l4
  split_ifs at l4 with icmp tcp udp
  all_goals
    split at l4
    · cases l4
    next h read =>
      rw [readArray_egressHeaders_after within2 x _ _ (le_refl _)] at read
      obtain ⟨_, rfl⟩ := (writeArray_eq_some _ _ _ out).mp l4
      first
      | exact .inl ⟨icmp, h, read, rfl⟩
      | exact .inr (.inl ⟨tcp, h, read, rfl⟩)
      | exact .inr (.inr ⟨udp, h, read, rfl⟩)

lemma wordAt_egressIcmp_id (x : Nat64Xlate) (h : Vector UInt8 8) : wordAt (egressIcmp x h) 4 = x.natPort := by
  rw [egressIcmp, wordAt_copyAt_apart _ _ 2 4 (.inr (by decide)) (by decide)]
  exact fromBeBytes_toBeBytes x.natPort

lemma nat64EgressWrite_window (written : nat64EgressWrite p ethLen true x = some out) :
  HasPorts x.l4ProtoV4 /\ ∃ (n : Nat) (w : Vector UInt8 n), n = l4Window x.l4ProtoV4 /\ ethLen + 20 + n <= p.length /\
    out = splice (egressHeaders p x) (ethLen + 20) w /\ wordAt w (portRel x.l4ProtoV4 0) = x.natPort := by
  obtain ⟨_, ⟨icmp, h, read, same⟩ | ⟨tcp, h, read, same⟩ | ⟨udp, h, read, same⟩⟩ :=
    nat64EgressWrite_cases written
  · refine ⟨.inr (.inr icmp), 8, _, by rw [icmp]; rfl, readArray_le p _ read, same, ?_⟩
    rw [icmp]
    exact wordAt_egressIcmp_id x h
  · refine ⟨.inl tcp, 18, _, by rw [tcp]; rfl, readArray_le p _ read, same, ?_⟩
    have rel : portRel x.l4ProtoV4 0 = 0 := by rw [tcp]; rfl
    rw [rel, wordAt_copyAt_apart _ _ 16 0 (.inl (by decide)) (by decide), wordAt_copyAt_same h _ 0 (by decide)]
  · refine ⟨.inr (.inl udp), 8, _, by rw [udp]; rfl, readArray_le p _ read, same, ?_⟩
    have rel : portRel x.l4ProtoV4 0 = 0 := by rw [udp]; rfl
    rw [rel, wordAt_copyAt_apart _ _ 6 0 (.inl (by decide)) (by decide), wordAt_copyAt_same h _ 0 (by decide)]

section

variable {p : Pkt} (x : Nat64Xlate) {n : Nat} (w : Vector UInt8 n) (fits : ethLen + 20 + n <= p.length)

include fits

lemma emitted_header : (splice (egressHeaders p x) (ethLen + 20) w).readArray 20 ethLen
  = some (ipv4Header (20 + x.l4Len) x.hopLimit x.l4ProtoV4 x.natIpv4 x.ipv4Dst) :=
  framed_header _ _ (by omega) w fits

lemma emitted_ethertype : (splice (egressHeaders p x) (ethLen + 20) w).readU16Be 12 = some ethPIp :=
  framed_ethertype _ (by omega) w fits _ _ _

lemma emitted_word (rel : Nat) (inside : rel + 2 <= n) :
  (splice (egressHeaders p x) (ethLen + 20) w).readU16Be (ethLen + 20 + rel) = some (wordAt w rel) :=
  framed_word _ _ (by omega) w fits rel inside

end

section

variable (totalLen : UInt16) (ttl proto : UInt8) (src dst : Vector UInt8 4)

lemma ipv4Header_byte (k : Nat) (front : k < 10) : (ipv4Header totalLen ttl proto src dst)[k]
    = #v[0x45, 0, (toBeBytes totalLen).1, (toBeBytes totalLen).2, 0, 0, 0, 0, ttl, proto][k] := by
  rw [ipv4Header, copyAt_outside _ _ 10 k _ (by omega), copyAt_outside _ _ 16 k _ (by omega),
    copyAt_outside _ _ 12 k _ (by omega), copyAt_inside _ _ 0 k _ (by omega)]
  rfl

lemma ipv4Header_start : ihl (ipv4Header totalLen ttl proto src dst) = 5 := by
  rw [ihl, ipv4Header_byte _ _ _ _ _ 0 (by decide)]
  exact (by decide : (0x45 : UInt8) &&& 0x0f = 5)

lemma ipv4Header_proto : l4Proto (ipv4Header totalLen ttl proto src dst) = proto :=
  ipv4Header_byte _ _ _ _ _ 9 (by decide)

lemma ipv4Header_fragment : fragmentOffset (ipv4Header totalLen ttl proto src dst) = 0 := by
  rw [fragmentOffset, ipv4Header_byte _ _ _ _ _ 6 (by decide), ipv4Header_byte _ _ _ _ _ 7 (by decide)]
  exact (by decide : fromBeBytes (0 &&& 0x1f) 0 = 0)

lemma ipv4Header_source : addrAt (ipv4Header totalLen ttl proto src dst) 12 = src := by
  apply Vector.ext
  intro k bound
  have inside : 12 + k < 20 := by omega
  simp only [addrAt, Vector.getElem_ofFn, Vector.getElem?_eq_getElem inside, getD_some, ipv4Header]
  rw [copyAt_outside _ _ 10 (12 + k) inside (by omega), copyAt_outside _ _ 16 (12 + k) inside (by omega),
    copyAt_inside _ _ 12 (12 + k) inside (by omega)]
  simp only [Nat.add_sub_cancel_left]

end

-- The way back.

def ingressNext (proto : UInt8) : UInt8 := if proto = ipprotoIcmp then ipprotoIcmpv6 else proto

def ingressCheck (x : Nat64InXlate) : UInt16 :=
  tcpUdpV4ToV6 x.oldL4Cksum x.innerSrcV4 x.innerDstV4 x.ipv6Src x.guestIpv6 x.l4Proto x.l4Len

def ingressHeader (x : Nat64InXlate) : Vector UInt8 40 :=
  ipv6Header x.l4Len (ingressNext x.l4Proto) x.ttl x.ipv6Src x.guestIpv6

def ingressHeaders (p : Pkt) (mac : Vector UInt8 6) (x : Nat64InXlate) : Pkt :=
  splice (splice p 0 (ethHeader x.guestMac mac ethPIpv6)) ethLen (ingressHeader x)

lemma length_ingressHeaders {p : Pkt} (long : ethLen + 40 <= p.length) (mac : Vector UInt8 6)
  (x : Nat64InXlate) : (ingressHeaders p mac x).length = p.length := length_framed _ _ long

lemma nat64IngressWrite_headers {p : Pkt} (long : ethLen + 40 <= p.length) (mac : Vector UInt8 6) (x : Nat64InXlate) :
  nat64IngressWrite p ethLen mac x = nat64IngressL4 (ingressHeaders p mac x) (ethLen + 40) x := by
  have fixed : ethLen = 14 := rfl
  have one := length_splice p 0 (ethHeader x.guestMac mac ethPIpv6) (by omega)
  have first := writeArray_of_within p 0 (ethHeader x.guestMac mac ethPIpv6) (by omega)
  have second := writeArray_of_within (splice p 0 (ethHeader x.guestMac mac ethPIpv6)) ethLen (ingressHeader x) (by omega)
  simp only [ingressHeader, ingressNext] at second
  simp only [nat64IngressWrite, Nat.sub_self, first, bind_eq_bind, bind_some, second]
  rw [ingressHeaders, ingressHeader, ingressNext, ipv6Len]

section

variable {p : Pkt} {x : Nat64InXlate} (mac : Vector UInt8 6)

lemma nat64IngressWrite_l4 {n : Nat} {h : Vector UInt8 n} (read : p.readArray n (ethLen + 40) = some h)
  {w : Vector UInt8 n} (patched : ∀ q : Pkt, q.readArray n (ethLen + 40) = some h ->
    nat64IngressL4 q (ethLen + 40) x = q.writeArray (ethLen + 40) w) :
  nat64IngressWrite p ethLen mac x = some (splice (ingressHeaders p mac x) (ethLen + 40) w) := by
  have within := readArray_le p _ read
  have long : ethLen + 40 <= p.length := by omega
  have length := length_ingressHeaders long mac x
  rw [nat64IngressWrite_headers long mac x, <- writeArray_of_within _ _ w (by omega)]
  exact patched _ ((readArray_framed_after _ _ long _ (le_refl _)).trans read)

lemma nat64IngressWrite_icmp (icmp : x.l4Proto = ipprotoIcmp) {h : Vector UInt8 8}
  (read : p.readArray 8 (ethLen + 40) = some h) :
  nat64IngressWrite p ethLen mac x = some (splice (ingressHeaders p mac x) (ethLen + 40) (ingressIcmp x h)) := by
  refine nat64IngressWrite_l4 mac read fun q same => ?_
  simp only [nat64IngressL4, icmp, if_true, same]

lemma nat64IngressWrite_tcp (tcp : x.l4Proto = ipprotoTcp) {h : Vector UInt8 18}
  (read : p.readArray 18 (ethLen + 40) = some h) :
  nat64IngressWrite p ethLen mac x
    = some (splice (ingressHeaders p mac x) (ethLen + 40) (copyAt h 16 (be16 (ingressCheck x)))) := by
  refine nat64IngressWrite_l4 mac read fun q same => ?_
  have other : ¬ ipprotoTcp = ipprotoIcmp := by decide
  simp only [nat64IngressL4, tcp, if_neg other, if_true, same, ingressCheck]

lemma nat64IngressWrite_udp (udp : x.l4Proto = ipprotoUdp) {h : Vector UInt8 8}
  (read : p.readArray 8 (ethLen + 40) = some h) :
  nat64IngressWrite p ethLen mac x
    = some (splice (ingressHeaders p mac x) (ethLen + 40) (copyAt h 6 (be16 (ingressCheck x)))) := by
  refine nat64IngressWrite_l4 mac read fun q same => ?_
  have other : ¬ ipprotoUdp = ipprotoIcmp := by decide
  have other' : ¬ ipprotoUdp = ipprotoTcp := by decide
  simp only [nat64IngressL4, udp, if_neg other, if_neg other', if_true, same, ingressCheck]

lemma wordAt_ingressIcmp_id (x : Nat64InXlate) (h : Vector UInt8 8) : wordAt (ingressIcmp x h) 4 = x.origSport := by
  rw [ingressIcmp, wordAt_copyAt_apart _ _ 2 4 (.inr (by decide)) (by decide)]
  exact fromBeBytes_toBeBytes x.origSport

lemma nat64IngressWrite_window (has : HasPorts x.l4Proto) (window : ethLen + 40 + l4Window x.l4Proto <= p.length) :
  ∃ (n : Nat) (w : Vector UInt8 n), n = l4Window x.l4Proto /\
    nat64IngressWrite p ethLen mac x = some (splice (ingressHeaders p mac x) (ethLen + 40) w) /\
    (x.l4Proto = ipprotoIcmp -> wordAt w 4 = x.origSport) /\
    (x.l4Proto ≠ ipprotoIcmp -> ∀ port, p.readU16Be (ethLen + 40 + 2) = some port -> wordAt w 2 = port) := by
  rcases has with tcp | udp | icmp
  · have size : l4Window x.l4Proto = 18 := by rw [tcp]; rfl
    obtain ⟨h, read⟩ := readArray_of_within (n := 18) p (ethLen + 40) (by omega)
    refine ⟨18, _, size.symm, nat64IngressWrite_tcp mac tcp read, ?_, fun _ port word => ?_⟩
    · rw [tcp]
      exact fun icmp => absurd icmp (by decide)
    · rw [wordAt_copyAt_apart _ _ 16 2 (.inl (by decide)) (by decide)]
      exact mem_unique (readU16Be_window read 2 (by decide)) word
  · have size : l4Window x.l4Proto = 8 := by rw [udp]; rfl
    obtain ⟨h, read⟩ := readArray_of_within (n := 8) p (ethLen + 40) (by omega)
    refine ⟨8, _, size.symm, nat64IngressWrite_udp mac udp read, ?_, fun _ port word => ?_⟩
    · rw [udp]
      exact fun icmp => absurd icmp (by decide)
    · rw [wordAt_copyAt_apart _ _ 6 2 (.inl (by decide)) (by decide)]
      exact mem_unique (readU16Be_window read 2 (by decide)) word
  · have size : l4Window x.l4Proto = 8 := by rw [icmp]; rfl
    obtain ⟨h, read⟩ := readArray_of_within (n := 8) p (ethLen + 40) (by omega)
    exact ⟨8, _, size.symm, nat64IngressWrite_icmp mac icmp read, fun _ => wordAt_ingressIcmp_id x h,
      fun other => absurd icmp other⟩

variable (x) {n : Nat} (w : Vector UInt8 n) (fits : ethLen + 40 + n <= p.length)

include fits

lemma expanded_header : (splice (ingressHeaders p mac x) (ethLen + 40) w).readArray 40 ethLen
  = some (ingressHeader x) := framed_header _ _ (by omega) w fits

lemma expanded_ethertype : (splice (ingressHeaders p mac x) (ethLen + 40) w).readU16Be 12 = some ethPIpv6 :=
  framed_ethertype _ (by omega) w fits _ _ _

lemma expanded_word (rel : Nat) (inside : rel + 2 <= n) :
  (splice (ingressHeaders p mac x) (ethLen + 40) w).readU16Be (ethLen + 40 + rel) = some (wordAt w rel) :=
  framed_word _ _ (by omega) w fits rel inside

end

section

variable (l4Len : UInt16) (next hopLimit : UInt8) (src dst : Vector UInt8 16)

lemma ipv6Header_byte (k : Nat) (bound : k < 8) : (ipv6Header l4Len next hopLimit src dst)[k]
    = #v[0x60, 0, 0, 0, (toBeBytes l4Len).1, (toBeBytes l4Len).2, next, hopLimit][k] := by
  rw [ipv6Header, copyAt_outside _ _ 24 k (by omega) (by omega), copyAt_outside _ _ 8 k (by omega) (by omega),
    copyAt_inside _ _ 0 k (by omega) (by omega)]
  rfl

lemma ipv6Header_dest {p : Pkt} {off : Nat} (header : p.readArray 40 off = some (ipv6Header l4Len next hopLimit src dst)) :
  p.readArray 16 (off + 24) = some dst := by
  have within := readArray_le p off header
  obtain ⟨addr, read⟩ := readArray_of_within (n := 16) p (off + 24) (by omega)
  rw [read]
  congr 1
  apply Vector.ext
  intro k bound
  have there := readArray_byte p off header (24 + k) (by omega)
  have here := readArray_byte p (off + 24) read k bound
  rw [<- Nat.add_assoc] at there
  rw [there] at here
  rw [<- some.inj here, ipv6Header, copyAt_inside _ _ 24 (24 + k) (by omega) (by omega)]
  congr 1
  omega

end

lemma length_growHead (pkt : Pkt) (delta : Nat) : (growHead pkt delta).length = delta + pkt.length := by
  simp [growHead]

lemma readArray_growHead (pkt : Pkt) (delta k off : Nat) :
  (growHead pkt delta).readArray k (delta + off) = pkt.readArray k off := by
  have moved : (growHead pkt delta).drop (delta + off) = pkt.drop off := by
    rw [growHead, List.drop_append, List.length_replicate, List.drop_of_length_le (by simp),
      Nat.add_sub_cancel_left]
    rfl
  apply ext
  intro v
  rw [readArray_eq_some, readArray_eq_some, moved, length_growHead]
  constructor
  · rintro ⟨within, same⟩
    exact ⟨by omega, same⟩
  · rintro ⟨within, same⟩
    exact ⟨by omega, same⟩

end Ectobase.Flowplane
