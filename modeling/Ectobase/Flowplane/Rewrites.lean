import Ectobase.Flowplane.Uplink

namespace Ectobase.Flowplane

open Shared Option Pkt

-- Each translator reads a window, patches it and writes it back. Here the whole of it is shown to be
-- a few fields overwritten in the frame.

lemma be16_fromBeBytes (hi lo : UInt8) : be16 (fromBeBytes hi lo) = #v[hi, lo] := by
  have value := toNat_toBeBytes (fromBeBytes hi lo)
  rw [toNat_fromBeBytes] at value
  have low := (toBeBytes (fromBeBytes hi lo)).2.toNat_lt
  have low' := lo.toNat_lt
  have first : (toBeBytes (fromBeBytes hi lo)).1 = hi := UInt8.toNat_inj.mp (by omega)
  have second : (toBeBytes (fromBeBytes hi lo)).2 = lo := UInt8.toNat_inj.mp (by omega)
  simp only [be16, first, second]

lemma set_set_eq_copyAt {n : Nat} (h : Vector UInt8 n) (i : Nat) (v : UInt16) (fits : i + 1 < n) :
  (h.set i (toBeBytes v).1 (by omega)).set (i + 1) (toBeBytes v).2 = copyAt h i (be16 v) := by
  apply Vector.ext
  intro k bound
  by_cases inside : i <= k /\ k < i + 2
  · rw [copyAt_inside h (be16 v) i k bound inside]
    rcases (by omega : k = i \/ k = i + 1) with rfl | rfl <;> simp [be16]
  · rw [copyAt_outside h (be16 v) i k bound (by omega),
      Vector.getElem_set_ne _ _ (by omega), Vector.getElem_set_ne _ _ (by omega)]

section

variable {pkt : Pkt} {n off : Nat} {h : Vector UInt8 n} (read : pkt.readArray n off = some h)

include read

lemma splice_self : splice pkt off h = pkt := by
  have within := readArray_le pkt off read
  apply List.ext_getElem?
  intro i
  rw [getElem?_splice pkt off h within]
  split
  next inside =>
    have byte := readArray_byte pkt off read (i - off) (by omega)
    rw [Nat.add_sub_cancel' inside.1] at byte
    rw [byte, Vector.getElem?_eq_getElem (by omega)]
  · rfl

lemma readU16Be_window (rel : Nat) (fits : rel + 2 <= n) : pkt.readU16Be (off + rel) = some (wordAt h rel) := by
  have within := readArray_le pkt off read
  obtain ⟨w, word⟩ := readArray_of_within (n := 2) pkt (off + rel) (by omega)
  have first := (readArray_byte pkt (off + rel) word 0 (by decide)).symm.trans
    (readArray_byte pkt off read rel (by omega))
  have second := (readArray_byte pkt (off + rel) word 1 (by decide)).symm.trans
    (readArray_byte pkt off read (rel + 1) (by omega))
  rw [readU16Be, word, map_some, some.inj first, some.inj second, wordAt,
    Vector.getElem?_eq_getElem (by omega), Vector.getElem?_eq_getElem (by omega)]
  rfl

lemma write_copyAt {m rel : Nat} (field : Vector UInt8 m) (fits : rel + m <= n) :
  (pkt.writeArray off (copyAt h rel field)).getD pkt = splice pkt (off + rel) field := by
  rw [writeArray_of_within pkt off _ (readArray_le pkt off read), getD_some, splice_copyAt pkt off read field fits]

lemma write_copyAt_copyAt {m k rel rel' : Nat} (first : Vector UInt8 m) (second : Vector UInt8 k)
  (fits : rel + m <= n) (fits' : rel' + k <= n) :
  (pkt.writeArray off (copyAt (copyAt h rel first) rel' second)).getD pkt
    = splice (splice pkt (off + rel) first) (off + rel') second := by
  rw [writeArray_of_within pkt off _ (readArray_le pkt off read), getD_some,
    splice_copyAt_copyAt pkt off read first second fits fits']

end

section

variable (pkt : Pkt) {n off : Nat}

lemma readU16Be_splice_same (v : UInt16) (within : off + 2 <= pkt.length) :
  (splice pkt off (be16 v)).readU16Be off = some v := by
  rw [readU16Be, readArray_splice_same pkt off (be16 v) within]
  exact congrArg some (fromBeBytes_toBeBytes v)

lemma readU16Be_splice_apart (src : Vector UInt8 n) (within : off + n <= pkt.length) (start : Nat)
  (apart : start + 2 <= off \/ off + n <= start) :
  (splice pkt off src).readU16Be start = pkt.readU16Be start := by
  rw [readU16Be, readU16Be, readArray_splice_apart pkt off src within 2 start apart]

lemma readU16Be_le {off : Nat} {v : UInt16} (read : pkt.readU16Be off = some v) : off + 2 <= pkt.length := by
  obtain ⟨w, word, _⟩ := map_eq_some_iff.mp read
  exact readArray_le pkt off word

lemma readU16Be_of_within (off : Nat) (within : off + 2 <= pkt.length) : ∃ v, pkt.readU16Be off = some v := by
  obtain ⟨w, word⟩ := readArray_of_within (n := 2) pkt off within
  exact ⟨_, by rw [readU16Be, word]; rfl⟩

variable {pkt} in
lemma readArray_word (n rel : Nat) (window : off + n <= pkt.length) (fits : rel + 2 <= n) {v : UInt16}
  (read : pkt.readU16Be (off + rel) = some v) : ∃ h : Vector UInt8 n, pkt.readArray n off = some h /\ wordAt h rel = v := by
  obtain ⟨h, whole⟩ := readArray_of_within pkt off window
  exact ⟨h, whole, mem_unique (readU16Be_window whole rel fits) read⟩

lemma splice_be16_self {off : Nat} {v : UInt16} (read : pkt.readU16Be off = some v) : splice pkt off (be16 v) = pkt := by
  obtain ⟨w, word, same⟩ := map_eq_some_iff.mp read
  have whole : be16 v = w := by
    rw [<- same, be16_fromBeBytes]
    apply Vector.ext
    intro k bound
    rcases (by omega : k = 0 \/ k = 1) with rfl | rfl <;> rfl
  rw [whole, splice_self word]

end

def checkRel (proto : UInt8) : Nat :=
  if proto = ipprotoTcp then 16 else if proto = ipprotoUdp then 6 else 2

def l4Window (proto : UInt8) : Nat := if proto = ipprotoTcp then 18 else 8

def portRel (proto : UInt8) (rel : Nat) : Nat :=
  if proto = ipprotoTcp \/ proto = ipprotoUdp then rel else 4

def patchL4 (pkt : Pkt) (l4 : Nat) (proto : UInt8) (rel : Nat) (check port : UInt16) : Pkt :=
  splice (splice pkt (l4 + checkRel proto) (be16 check)) (l4 + portRel proto rel) (be16 port)

def HasPorts (proto : UInt8) : Prop := proto = ipprotoTcp \/ proto = ipprotoUdp \/ proto = ipprotoIcmp

-- An echo message has no pseudo-header; an absent UDP checksum stays absent.
def natCheck (proto : UInt8) (check : UInt16) (oldAddr newAddr : Vector UInt8 4) (oldPort newPort : UInt16) : UInt16 :=
  if proto = ipprotoIcmp then csumReplace2 check oldPort newPort
  else if proto = ipprotoUdp /\ check = 0 then 0
  else csumReplace2 (csumReplace4 check oldAddr newAddr) oldPort newPort

variable {pkt : Pkt} {l4 : Nat} {proto : UInt8} (hdr : Vector UInt8 20)

lemma rewriteL4_eq (ports : HasPorts proto) (window : l4 + l4Window proto <= pkt.length) {check : UInt16}
  (read : pkt.readU16Be (l4 + checkRel proto) = some check) (src natIp : Vector UInt8 4)
  (sport natPort : UInt16) :
  rewriteL4 pkt l4 proto src natIp sport natPort
    = patchL4 pkt l4 proto 0 (natCheck proto check src natIp sport natPort) natPort := by
  rcases ports with rfl | rfl | rfl
  · obtain ⟨h, whole, word⟩ := readArray_word 18 16 window (by decide) read
    have field : fromBeBytes h[16] h[17] = check := word
    rw [rewriteL4, if_pos rfl]
    simp only [whole, field]
    rw [set_set_eq_copyAt h 16 _ (by decide), set_set_eq_copyAt _ 0 _ (by decide),
      write_copyAt_copyAt whole _ _ (by decide) (by decide)]
    rfl
  · obtain ⟨h, whole, word⟩ := readArray_word 8 6 window (by decide) read
    have field : fromBeBytes h[6] h[7] = check := word
    rw [rewriteL4, if_neg (by decide), if_pos rfl]
    simp only [whole, field]
    by_cases absent : check = 0
    · rw [if_neg (not_not.mpr absent), set_set_eq_copyAt _ 0 _ (by decide),
        write_copyAt whole _ (by decide), patchL4, natCheck, if_neg (by decide),
        if_pos ⟨rfl, absent⟩, <- absent, splice_be16_self pkt read]
      rfl
    · rw [if_pos absent, set_set_eq_copyAt h 6 _ (by decide), set_set_eq_copyAt _ 0 _ (by decide),
        write_copyAt_copyAt whole _ _ (by decide) (by decide), natCheck, if_neg (by decide),
        if_neg (fun udp => absent udp.2)]
      rfl
  · obtain ⟨h, whole, word⟩ := readArray_word 8 2 window (by decide) read
    have field : fromBeBytes h[2] h[3] = check := word
    rw [rewriteL4, if_neg (by decide), if_neg (by decide), if_pos rfl]
    simp only [whole, field]
    rw [set_set_eq_copyAt h 2 _ (by decide), set_set_eq_copyAt _ 4 _ (by decide), write_copyAt_copyAt whole _ _ (by decide) (by decide)]
    rfl

lemma rewriteL4_short (ports : HasPorts proto)
  (short : pkt.length < l4 + l4Window proto) (src natIp : Vector UInt8 4) (sport natPort : UInt16) :
  rewriteL4 pkt l4 proto src natIp sport natPort = pkt := by
  rcases ports with rfl | rfl | rfl
  · have unread := (readArray_eq_none pkt 18 l4).mpr short
    rw [rewriteL4, if_pos rfl, unread]
  · have unread := (readArray_eq_none pkt 8 l4).mpr short
    rw [rewriteL4, if_neg (by decide), if_pos rfl, unread]
  · have unread := (readArray_eq_none pkt 8 l4).mpr short
    rw [rewriteL4, if_neg (by decide), if_neg (by decide), if_pos rfl, unread]

lemma length_rewriteL4 (pkt : Pkt) (l4 : Nat) (proto : UInt8) (src natIp : Vector UInt8 4)
  (sport natPort : UInt16) : (rewriteL4 pkt l4 proto src natIp sport natPort).length = pkt.length := by
  unfold rewriteL4
  split
  · split <;> simp only [length_writeArray_getD]
  · split
    · split <;> simp only [length_writeArray_getD]
    · split
      · split <;> simp only [length_writeArray_getD]
      · rfl

lemma splice_comm (pkt : Pkt) {n m a b : Nat} (x : Vector UInt8 n) (y : Vector UInt8 m)
  (first : a + n <= pkt.length) (second : b + m <= pkt.length) (apart : a + n <= b \/ b + m <= a) :
  splice (splice pkt a x) b y = splice (splice pkt b y) a x := by
  apply List.ext_getElem?
  intro i
  rw [getElem?_splice _ b y (by rw [length_splice pkt a x first]; exact second),
    getElem?_splice pkt a x first, getElem?_splice _ a x (by rw [length_splice pkt b y second]; exact first),
    getElem?_splice pkt b y second]
  split <;> split <;> first | rfl | omega

def patchHeader (pkt : Pkt) (ipOff rel : Nat) (check : UInt16) (addr : Vector UInt8 4) : Pkt :=
  splice (splice pkt (ipOff + 10) (be16 check)) (ipOff + rel) addr

lemma addrAt_source : srcAddr hdr = addrAt hdr 12 := by
  apply Vector.ext
  intro k bound
  rcases (by omega : k = 0 \/ k = 1 \/ k = 2 \/ k = 3) with rfl | rfl | rfl | rfl <;> simp [addrAt]

lemma addrAt_dest : dstAddr hdr = addrAt hdr 16 := by
  apply Vector.ext
  intro k bound
  rcases (by omega : k = 0 \/ k = 1 \/ k = 2 \/ k = 3) with rfl | rfl | rfl | rfl <;> simp [addrAt]

section

variable {pkt : Pkt} {ipOff : Nat} {hdr : Vector UInt8 20} (header : pkt.readArray 20 ipOff = some hdr)

include header

variable (rel : Nat) (natIp : Vector UInt8 4) (proto : UInt8) (sport natPort : UInt16)

lemma addrAt_header (fits : rel + 4 <= 20) : pkt.readArray 4 (ipOff + rel) = some (addrAt hdr rel) := by
  have within := readArray_le pkt ipOff header
  obtain ⟨addr, read⟩ := readArray_of_within (n := 4) pkt (ipOff + rel) (by omega)
  rw [read]
  congr 1
  apply Vector.ext
  intro k bound
  have there := readArray_byte pkt ipOff header (rel + k) (by omega)
  rw [<- Nat.add_assoc] at there
  have here := (readArray_byte pkt (ipOff + rel) read k bound).symm.trans there
  simp [addrAt, some.inj here, show rel + k < 20 by omega]

lemma length_patchHeader (fits : rel + 4 <= 20) (check : UInt16) (addr : Vector UInt8 4) :
  (patchHeader pkt ipOff rel check addr).length = pkt.length := by
  have within := readArray_le pkt ipOff header
  have first := length_splice pkt (ipOff + 10) (be16 check) (by omega)
  rw [patchHeader, length_splice _ (ipOff + rel) addr (by omega), first]

lemma rewriteSource_eq : rewriteSource pkt ipOff hdr natIp proto sport natPort
    = rewriteL4 (patchHeader pkt ipOff 12 (csumReplace4 (wordAt hdr 10) (addrAt hdr 12) natIp) natIp)
        (ipOff + (ihl hdr).toNat * 4) proto (addrAt hdr 12) natIp sport natPort := by
  have within := readArray_le pkt ipOff header
  have src := addrAt_source hdr
  have addr : ipOff + 12 + 4 <= pkt.length := by omega
  have check : (splice pkt (ipOff + 12) natIp).readU16Be (ipOff + 10) = some (wordAt hdr 10) := by
    rw [readU16Be_splice_apart pkt natIp addr _ (by omega), readU16Be_window header 10 (by decide)]
  have pair (v : UInt16) : (#v[(toBeBytes v).1, (toBeBytes v).2] : Vector UInt8 2) = be16 v := rfl
  simp only [rewriteSource, src, writeArray_of_within pkt _ natIp addr, check, pair]
  rw [writeArray_of_within _ _ _ (by rw [length_splice pkt _ natIp addr]; omega), getD_some,
    splice_comm pkt natIp _ addr (by omega) (.inr (by omega)), patchHeader]

lemma length_rewriteSource : (rewriteSource pkt ipOff hdr natIp proto sport natPort).length = pkt.length := by
  rw [rewriteSource_eq header, length_rewriteL4, length_patchHeader header 12 (by decide)]

lemma ctApply_eq (short : ihl hdr = 5) {e : CtEntry} {rel relPort : Nat}
  (source : e.flags &&& ctRewriteSrc ≠ 0 /\ rel = 12 /\ relPort = 0 \/
    e.flags &&& ctRewriteSrc = 0 /\ e.flags &&& ctRewriteDst ≠ 0 /\ rel = 16 /\ relPort = 2) :
  ctApply pkt ipOff e = some (ctApplyL4
    (patchHeader pkt ipOff rel (csumReplace4 (wordAt hdr 10) (addrAt hdr rel) e.xlateIp) e.xlateIp)
    (ipOff + 20) (l4Proto hdr) relPort (addrAt hdr rel) e.xlateIp e.xlatePort) := by
  have within := readArray_le pkt ipOff header
  have flags : e.flags &&& (ctRewriteSrc ||| ctRewriteDst) ≠ 0 := by
    intro none
    have part (m : UInt8) (inside : (ctRewriteSrc ||| ctRewriteDst) &&& m = m) : e.flags &&& m = 0 := by
      rw [<- inside, <- UInt8.and_assoc, none, UInt8.zero_and]
    rcases source with ⟨some_, _⟩ | ⟨_, some_, _⟩
    · exact some_ (part ctRewriteSrc (by decide))
    · exact some_ (part ctRewriteDst (by decide))
  have written (r : Nat) (fits : r + 4 <= 20) :
    pkt.writeArray ipOff (rewriteHeader hdr r e.xlateIp) = some (patchHeader pkt ipOff r
      (csumReplace4 (wordAt hdr 10) (addrAt hdr r) e.xlateIp) e.xlateIp) := by
    rw [writeArray_of_within pkt ipOff _ within, rewriteHeader,
      splice_copyAt_copyAt pkt ipOff header _ _ (by decide) fits, patchHeader]
  rcases source with ⟨src, rfl, rfl⟩ | ⟨src, dst, rfl, rfl⟩
  · simp [ctApply, flags, header, short, src, written 12 (by decide)]
  · simp [ctApply, flags, header, short, src, written 16 (by decide)]

end

lemma ctApplyL4_eq {pkt : Pkt} {l4 : Nat} {proto : UInt8} (ports : HasPorts proto)
  (window : l4 + l4Window proto <= pkt.length) {rel : Nat} (which : rel = 0 \/ rel = 2)
  {check port : UInt16} (read : pkt.readU16Be (l4 + checkRel proto) = some check)
  (old : pkt.readU16Be (l4 + portRel proto rel) = some port) (oldAddr newAddr : Vector UInt8 4)
  {xlatePort : UInt16} (some_ : xlatePort ≠ 0) :
  ctApplyL4 pkt l4 proto rel oldAddr newAddr xlatePort
    = patchL4 pkt l4 proto rel (natCheck proto check oldAddr newAddr port xlatePort) xlatePort := by
  rcases ports with rfl | rfl | rfl
  · obtain ⟨h, whole, word⟩ := readArray_word 18 16 window (by decide) read
    have field : wordAt h rel = port := mem_unique (readU16Be_window whole rel (by omega)) old
    rw [ctApplyL4, if_pos rfl]
    simp only [whole, word, field, foldPort, putPort, if_pos some_]
    rw [write_copyAt_copyAt whole _ _ (by decide) (by omega)]
    rfl
  · obtain ⟨h, whole, word⟩ := readArray_word 8 6 window (by decide) read
    have field : wordAt h rel = port := mem_unique (readU16Be_window whole rel (by omega)) old
    rw [ctApplyL4, if_neg (by decide), if_pos rfl]
    simp only [whole, word, field, foldPort, putPort, if_pos some_]
    by_cases absent : check = 0
    · rw [if_neg (not_not.mpr absent), write_copyAt whole _ (by omega), patchL4, natCheck,
        if_neg (by decide), if_pos ⟨rfl, absent⟩, <- absent, splice_be16_self pkt read]
      rfl
    · rw [if_pos absent, write_copyAt_copyAt whole _ _ (by decide) (by omega), natCheck, if_neg (by decide),
        if_neg (fun udp => absent udp.2)]
      rfl
  · obtain ⟨h, whole, word⟩ := readArray_word 8 2 window (by decide) read
    have field : wordAt h 4 = port := mem_unique (readU16Be_window whole 4 (by decide)) old
    rw [ctApplyL4, if_neg (by decide), if_neg (by decide), if_pos ⟨rfl, some_⟩]
    simp only [whole, word, field]
    rw [write_copyAt_copyAt whole _ _ (by decide) (by decide)]
    rfl

lemma readArray_ctApplyL4_before (pkt : Pkt) (l4 : Nat) (proto : UInt8) (rel : Nat)
  (oldAddr newAddr : Vector UInt8 4) (xlatePort : UInt16) (k start : Nat) (before : start + k <= l4) :
  (ctApplyL4 pkt l4 proto rel oldAddr newAddr xlatePort).readArray k start = pkt.readArray k start := by
  unfold ctApplyL4
  split
  · split <;> simp only [readArray_getD_before _ _ _ k start before]
  · split
    · split <;> simp only [readArray_getD_before _ _ _ k start before]
    · split
      · split <;> simp only [readArray_getD_before _ _ _ k start before]
      · rfl

lemma readArray_patchHeader_addr {pkt : Pkt} {ipOff : Nat} {hdr : Vector UInt8 20}
  (header : pkt.readArray 20 ipOff = some hdr) (rel : Nat) (fits : rel + 4 <= 20) (check : UInt16)
  (addr : Vector UInt8 4) :
  (patchHeader pkt ipOff rel check addr).readArray 4 (ipOff + rel) = some addr := by
  have within := readArray_le pkt ipOff header
  have first := length_splice pkt (ipOff + 10) (be16 check) (by omega)
  exact readArray_splice_same _ _ addr (by omega)

-- The IPv6 translators.

def HasPorts6 (proto : UInt8) : Prop := proto = ipprotoTcp \/ proto = ipprotoUdp \/ proto = ipprotoIcmpv6

def natCheck6 (proto : UInt8) (check : UInt16) (oldAddr newAddr : Vector UInt8 16) (oldPort newPort : UInt16) : UInt16 :=
  if proto = ipprotoUdp /\ check = 0 then 0
  else csumReplace2 (csumReplace16 check oldAddr newAddr) oldPort newPort

section

variable {pkt : Pkt} {ipOff : Nat} (long : ipOff + 40 <= pkt.length)

include long

lemma length_splice_addr (rel : Nat) (fits : rel + 16 <= 40) (addr : Vector UInt8 16) :
  (splice pkt (ipOff + rel) addr).length = pkt.length :=
  length_splice pkt (ipOff + rel) addr (by omega)

lemma snat6ApplyRewrite_eq (fwd : CtKey6) {check : UInt16} (ports : HasPorts6 fwd.proto)
  (window : ipOff + 40 + l4Window fwd.proto <= pkt.length)
  (read : pkt.readU16Be (ipOff + 40 + checkRel fwd.proto) = some check) (nat : NatValue6)
  (natPort : UInt16) :
  snat6ApplyRewrite pkt ipOff fwd nat natPort = patchL4 (splice pkt (ipOff + 8) nat.natIpv6) (ipOff + 40) fwd.proto 0
        (natCheck6 fwd.proto check fwd.srcIp nat.natIpv6 fwd.srcPort natPort) natPort := by
  have addr : ipOff + 8 + 16 <= pkt.length := by omega
  have length := length_splice pkt (ipOff + 8) nat.natIpv6 addr
  have read' : (splice pkt (ipOff + 8) nat.natIpv6).readU16Be (ipOff + 40 + checkRel fwd.proto) = some check := by
    rw [readU16Be_splice_apart pkt nat.natIpv6 addr _ (.inr (by omega)), read]
  simp only [snat6ApplyRewrite, writeArray_of_within pkt _ nat.natIpv6 addr]
  rw [<- length] at window
  generalize splice pkt (ipOff + 8) nat.natIpv6 = p at *
  generalize fwd.proto = proto at *
  rcases ports with rfl | rfl | rfl
  · rw [if_pos rfl]
    have word : p.readU16Be (ipOff + 40 + 16) = some check := read'
    have fits : ipOff + 40 + 18 <= p.length := window
    simp only [word]
    rw [writeArray_of_within p _ _ (by omega), getD_some,
      writeArray_of_within _ _ _ (by rw [length_splice p _ _ (by omega)]; omega), getD_some]
    rfl
  · obtain ⟨h, whole, word⟩ := readArray_word 8 6 window (by decide) read'
    rw [if_neg (by decide), if_pos rfl]
    simp only [whole, word]
    by_cases absent : check = 0
    · rw [if_neg (not_not.mpr absent), write_copyAt whole _ (by decide), patchL4, natCheck6,
        if_pos ⟨rfl, absent⟩, <- absent, splice_be16_self p read']
      rfl
    · rw [if_pos absent, write_copyAt_copyAt whole _ _ (by decide) (by decide), natCheck6,
        if_neg (fun udp => absent udp.2)]
      rfl
  · obtain ⟨h, whole, word⟩ := readArray_word 8 2 window (by decide) read'
    rw [if_neg (by decide), if_neg (by decide), if_pos rfl]
    simp only [whole, word]
    rw [write_copyAt_copyAt whole _ _ (by decide) (by decide)]
    rfl

lemma snat6ApplyRewrite_short (fwd : CtKey6) (ports : HasPorts6 fwd.proto)
  (short : pkt.length < ipOff + 40 + l4Window fwd.proto) (nat : NatValue6) (natPort : UInt16) :
  snat6ApplyRewrite pkt ipOff fwd nat natPort = splice pkt (ipOff + 8) nat.natIpv6 := by
  have addr : ipOff + 8 + 16 <= pkt.length := by omega
  have length := length_splice pkt (ipOff + 8) nat.natIpv6 addr
  simp only [snat6ApplyRewrite, writeArray_of_within pkt _ nat.natIpv6 addr]
  rw [<- length] at short
  generalize splice pkt (ipOff + 8) nat.natIpv6 = p at *
  generalize fwd.proto = proto at *
  rcases ports with rfl | rfl | rfl
  · have cut : p.length < ipOff + 40 + 18 := short
    have unread : p.readU16Be (ipOff + 40 + 16) = none := by
      rw [readU16Be, (readArray_eq_none p 2 _).mpr (by omega)]
      rfl
    rw [if_pos rfl]
    simp only [unread]
  · rw [if_neg (by decide), if_pos rfl, (readArray_eq_none p 8 _).mpr short]
  · rw [if_neg (by decide), if_neg (by decide), if_pos rfl, (readArray_eq_none p 8 _).mpr short]

end

-- What the parsers read of a patched frame.

def l4Start (ipOff : Nat) (hdr : Vector UInt8 20) : Nat := ipOff + (ihl hdr).toNat * 4

variable {pkt : Pkt} {ipOff : Nat} {proto : UInt8} {sport dport : UInt16}

lemma portsAt_eq_some {l4 : Nat} {nexthdr echo proto : UInt8} {sport dport : UInt16} :
  (if nexthdr = ipprotoTcp \/ nexthdr = ipprotoUdp then (pkt.readU16Be l4).bind fun sp =>
      (pkt.readU16Be (l4 + 2)).bind fun dp => some (nexthdr, sp, dp)
    else if nexthdr = echo then (pkt.readU16Be (l4 + 4)).bind fun id => some (nexthdr, id, id)
    else none) = some (proto, sport, dport) ↔
    nexthdr = proto /\ (proto = ipprotoTcp \/ proto = ipprotoUdp \/ proto = echo) /\
      pkt.readU16Be (l4 + portRel proto 0) = some sport /\
      pkt.readU16Be (l4 + portRel proto 2) = some dport := by
  by_cases segment : nexthdr = ipprotoTcp \/ nexthdr = ipprotoUdp
  · rw [if_pos segment]
    simp only [bind_eq_some_iff, some.injEq, Prod.mk.injEq]
    constructor
    · rintro ⟨sp, readSp, dp, readDp, rfl, rfl, rfl⟩
      simp only [portRel, if_pos segment]
      exact ⟨trivial, or_assoc.mp (.inl segment), readSp, readDp⟩
    · rintro ⟨rfl, _, readSp, readDp⟩
      simp only [portRel, if_pos segment] at readSp readDp
      exact ⟨sport, readSp, dport, readDp, rfl, rfl, rfl⟩
  · rw [if_neg segment]
    by_cases message : nexthdr = echo
    · rw [if_pos message]
      simp only [bind_eq_some_iff, some.injEq, Prod.mk.injEq]
      constructor
      · rintro ⟨id, readId, rfl, rfl, rfl⟩
        simp only [portRel, if_neg segment]
        exact ⟨trivial, .inr (.inr message), readId, readId⟩
      · rintro ⟨rfl, _, readSp, readDp⟩
        simp only [portRel, if_neg segment] at readSp readDp
        exact ⟨sport, readSp, rfl, rfl, mem_unique readSp readDp⟩
    · rw [if_neg message]
      constructor
      · nofun
      · rintro ⟨rfl, has, _⟩
        exact ((or_assoc.mpr has).elim segment message).elim

lemma l4Ports_eq_some : l4Ports pkt ipOff = some (proto, sport, dport) ↔
    ∃ hdr, pkt.readArray 20 ipOff = some hdr /\ fragmentOffset hdr = 0 /\ l4Proto hdr = proto /\ HasPorts proto /\
      pkt.readU16Be (l4Start ipOff hdr + portRel proto 0) = some sport /\
      pkt.readU16Be (l4Start ipOff hdr + portRel proto 2) = some dport := by
  unfold l4Ports
  cases header : pkt.readArray 20 ipOff with
  | none => simp
  | some hdr =>
    simp only [bind_eq_bind, bind_some, some.injEq, exists_eq_left']
    by_cases first : fragmentOffset hdr = 0
    · rw [if_neg (not_not.mpr first), portsAt_eq_some]
      exact (and_iff_right first).symm
    · rw [if_pos first]
      constructor
      · nofun
      · rintro ⟨zero, _⟩
        exact absurd zero first

lemma l4PortsV6_eq_some : l4PortsV6 pkt ipOff = some (proto, sport, dport) ↔
    pkt.readU8 (ipOff + 6) = some proto /\ HasPorts6 proto /\ pkt.readU16Be (ipOff + 40 + portRel proto 0) = some sport /\
      pkt.readU16Be (ipOff + 40 + portRel proto 2) = some dport := by
  unfold l4PortsV6
  cases next : pkt.readU8 (ipOff + 6) with
  | none => simp
  | some nexthdr =>
    simp only [bind_eq_bind, bind_some, some.injEq]
    exact portsAt_eq_some

lemma header_patchHeader {hdr : Vector UInt8 20}
  (header : pkt.readArray 20 ipOff = some hdr) (rel : Nat) (fits : rel + 4 <= 20) (check : UInt16)
  (addr : Vector UInt8 4) :
  (patchHeader pkt ipOff rel check addr).readArray 20 ipOff = some (copyAt (copyAt hdr 10 (be16 check)) rel addr) :=
  readArray_splice_window _ ipOff (readArray_splice_window pkt ipOff header _ (by decide)) addr fits

lemma checkRel_fits (proto : UInt8) : checkRel proto + 2 <= l4Window proto := by
  unfold checkRel l4Window
  split
  · decide
  · split <;> decide

lemma portRel_fits (proto : UInt8) {rel : Nat} (which : rel = 0 \/ rel = 2) : portRel proto rel + 2 <= l4Window proto := by
  unfold portRel l4Window
  split <;> split <;> omega

section

variable {pkt : Pkt} {l4 : Nat} {proto : UInt8} (window : l4 + l4Window proto <= pkt.length)
  {rel : Nat} (which : rel = 0 \/ rel = 2) (check port : UInt16)

include window which

lemma length_patchL4 : (patchL4 pkt l4 proto rel check port).length = pkt.length := by
  have one := checkRel_fits proto
  have two := portRel_fits proto which
  have first := length_splice pkt (l4 + checkRel proto) (be16 check) (by omega)
  rw [patchL4, length_splice _ _ (be16 port) (by omega), first]

lemma readU16Be_patchL4_port : (patchL4 pkt l4 proto rel check port).readU16Be (l4 + portRel proto rel) = some port := by
  have one := checkRel_fits proto
  have two := portRel_fits proto which
  have first := length_splice pkt (l4 + checkRel proto) (be16 check) (by omega)
  exact readU16Be_splice_same _ port (by omega)

lemma readArray_patchL4_before (k start : Nat) (before : start + k <= l4) :
  (patchL4 pkt l4 proto rel check port).readArray k start = pkt.readArray k start := by
  have one := checkRel_fits proto
  have two := portRel_fits proto which
  have first := length_splice pkt (l4 + checkRel proto) (be16 check) (by omega)
  rw [patchL4, readArray_splice_apart _ _ (be16 port) (by omega) k start (.inl (by omega)),
    readArray_splice_apart pkt _ (be16 check) (by omega) k start (.inl (by omega))]

end

lemma patchedHeader_kept (hdr : Vector UInt8 20) {rel : Nat} (field : rel = 12 \/ rel = 16) (check : UInt16)
  (addr : Vector UInt8 4) : ihl (copyAt (copyAt hdr 10 (be16 check)) rel addr) = ihl hdr /\
    l4Proto (copyAt (copyAt hdr 10 (be16 check)) rel addr) = l4Proto hdr /\
    fragmentOffset (copyAt (copyAt hdr 10 (be16 check)) rel addr) = fragmentOffset hdr := by
  have byte (k : Nat) (bound : k < 20) (outside : k < 10) : (copyAt (copyAt hdr 10 (be16 check)) rel addr)[k] = hdr[k] := by
    rw [copyAt_outside _ _ _ k bound (by omega), copyAt_outside _ _ _ k bound (by omega)]
  simp only [ihl, l4Proto, fragmentOffset, byte 0 (by decide) (by decide), byte 6 (by decide) (by decide),
    byte 7 (by decide) (by decide), byte 9 (by decide) (by decide), and_self]

lemma translated_reads {pkt : Pkt} {ipOff : Nat} {hdr : Vector UInt8 20} {proto : UInt8}
  {sport dport : UInt16} (header : pkt.readArray 20 ipOff = some hdr)
  (ports : l4Ports pkt ipOff = some (proto, sport, dport)) (words : 5 <= (ihl hdr).toNat)
  (window : l4Start ipOff hdr + l4Window proto <= pkt.length) {rel relPort : Nat}
  (field : rel = 12 \/ rel = 16) (which : relPort = 0 \/ relPort = 2) (check check' port : UInt16)
  (addr : Vector UInt8 4) :
  let out := patchL4 (patchHeader pkt ipOff rel check addr) (l4Start ipOff hdr) proto relPort check' port
  out.readArray 20 ipOff = some (copyAt (copyAt hdr 10 (be16 check)) rel addr) /\ out.readArray 4 (ipOff + rel) = some addr /\
    ∃ sport' dport', l4Ports out ipOff = some (proto, sport', dport') /\
      (relPort = 0 -> sport' = port) /\ (relPort = 2 -> dport' = port) := by
  intro out
  obtain ⟨hdr', header', first, rfl, has, _, _⟩ := l4Ports_eq_some.mp ports
  rw [header] at header'
  cases header'
  have behind : ipOff + 20 <= l4Start ipOff hdr := by
    unfold l4Start
    omega
  have fits : rel + 4 <= 20 := by omega
  have kept := patchedHeader_kept hdr field check addr
  have window' : l4Start ipOff hdr + l4Window (l4Proto hdr) <= (patchHeader pkt ipOff rel check addr).length := by
    rw [length_patchHeader header rel fits]
    exact window
  have header' : out.readArray 20 ipOff = some (copyAt (copyAt hdr 10 (be16 check)) rel addr) := by
    rw [readArray_patchL4_before window' which _ _ 20 ipOff behind, header_patchHeader header rel fits]
  have length : out.length = pkt.length := by
    rw [length_patchL4 window' which, length_patchHeader header rel fits]
  have start : l4Start ipOff (copyAt (copyAt hdr 10 (be16 check)) rel addr) = l4Start ipOff hdr := by
    rw [l4Start, l4Start, kept.1]
  have port' : out.readU16Be (l4Start ipOff hdr + portRel (l4Proto hdr) relPort) = some port :=
    readU16Be_patchL4_port window' which check' port
  refine ⟨header', ?_, ?_⟩
  · rw [readArray_patchL4_before window' which _ _ 4 (ipOff + rel) (by omega)]
    exact readArray_patchHeader_addr header rel fits check addr
  · obtain ⟨sport', readSp⟩ := readU16Be_of_within out (l4Start ipOff hdr + portRel (l4Proto hdr) 0)
      (by have := portRel_fits (l4Proto hdr) (.inl rfl : (0 : Nat) = 0 \/ 0 = 2); omega)
    obtain ⟨dport', readDp⟩ := readU16Be_of_within out (l4Start ipOff hdr + portRel (l4Proto hdr) 2)
      (by have := portRel_fits (l4Proto hdr) (.inr rfl : (2 : Nat) = 0 \/ 2 = 2); omega)
    refine ⟨sport', dport', l4Ports_eq_some.mpr ⟨_, header', kept.2.2.trans first, kept.2.1, has, ?_, ?_⟩, ?_, ?_⟩
    · rw [start]
      exact readSp
    · rw [start]
      exact readDp
    · rintro rfl
      exact mem_unique readSp port'
    · rintro rfl
      exact mem_unique readDp port'

end Ectobase.Flowplane
