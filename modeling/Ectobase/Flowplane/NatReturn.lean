import Ectobase.Flowplane.CtSteps
import Ectobase.Flowplane.Nat64Writes
import Ectobase.Flowplane.UplinkSteps

namespace Ectobase.Flowplane

open Shared Option

structure Reply (pkt : Pkt) (hdr : Vector UInt8 20) (proto : UInt8) (sport port : UInt16) : Prop where
  header : pkt.readArray 20 ethLen = some hdr
  ports : l4Ports pkt ethLen = some (proto, sport, port)
  words : 5 <= (ihl hdr).toNat
  window : l4Start ethLen hdr + l4Window proto <= pkt.length
  echo : proto = ipprotoIcmp -> pkt.readU8 (l4Start ethLen hdr) = some 0

lemma natReturnEntry_cases {maps : Maps} {ct : Conntrack} {pkt : Pkt} {vni : UInt32} {key : CtKey}
  {e : CtEntry} (found : natReturnEntry maps ct pkt vni = some (key, e)) :
  ∃ isIcmpError, natReturnKey maps pkt ethLen vni = some (key, isIcmpError) /\ ct.lookup key = some e /\
    e.flags &&& ctRewriteDst ≠ 0 := by
  unfold natReturnEntry at found
  split at found
  · cases found
  · split at found
    · cases found
    next keyed =>
      obtain ⟨_, filtered, same⟩ := map_eq_some_iff.mp found
      cases same
      obtain ⟨held, back⟩ := filter_eq_some_iff.mp filtered
      exact ⟨_, keyed, held, bne_iff_ne.mp back⟩

lemma ingressPort_fits {proto : UInt8} (has : HasPorts proto) {rel : Nat} (which : rel = 0 \/ rel = 2) :
  portRel (ingressNext proto) rel + 2 <= l4Window proto := by
  rcases has with rfl | rfl | rfl <;> rcases which with rfl | rfl <;> decide

lemma hasPorts6_ingressNext {proto : UInt8} (has : HasPorts proto) : HasPorts6 (ingressNext proto) := by
  rcases has with rfl | rfl | rfl
  · exact .inl rfl
  · exact .inr (.inl rfl)
  · exact .inr (.inr rfl)

section

variable {pkt : Pkt} {hdr : Vector UInt8 20} {proto : UInt8} {sport port : UInt16} (reply : Reply pkt hdr proto sport port)

include reply

lemma Reply.hasPorts : HasPorts proto /\ l4Proto hdr = proto := by
  obtain ⟨hdr', header', _, same, has, _, _⟩ := l4Ports_eq_some.mp reply.ports
  rw [reply.header] at header'
  cases header'
  exact ⟨has, same⟩

lemma Reply.long : ethLen + 20 <= pkt.length := readArray_le pkt ethLen reply.header

lemma Reply.not_error : natIcmpErrorOrigin pkt ethLen = none := by
  have version : pkt.readU8 ethLen = some hdr[0] := by
    rw [readU8_eq]
    exact readArray_byte pkt ethLen reply.header 0 (by decide)
  have kind : pkt.readU8 (ethLen + 9) = some (l4Proto hdr) := by
    rw [readU8_eq]
    exact readArray_byte pkt ethLen reply.header 9 (by decide)
  simp only [natIcmpErrorOrigin, version, kind, bind_eq_bind, bind_some]
  split
  · rfl
  next shape =>
    obtain ⟨short, icmp⟩ := not_or.mp shape
    have start : l4Start ethLen hdr = ethLen + 20 := by
      rw [l4Start, (not_not.mp short : ihl hdr = 5)]
      rfl
    have echo := reply.echo (reply.hasPorts.2.symm.trans (not_not.mp icmp))
    rw [start] at echo
    have harmless : isIcmpErrorType 0 = false := by decide
    rw [echo, bind_some, if_pos harmless]

lemma Reply.natReturnKey {maps : Maps} {vni : UInt32} (registered : maps.isNatIp vni (addrAt hdr 16) = true) :
  natReturnKey maps pkt ethLen vni = some (revKey vni (addrAt hdr 16) port proto, false) := by
  have keyed := ctKey_of_header reply.header reply.ports vni
  rw [addrAt_source, addrAt_dest] at keyed
  have known : ¬ maps.isNatIp vni (addrAt hdr 16) = false := by simp [registered]
  simp only [Flowplane.natReturnKey, keyed, reply.not_error, if_neg known]
  rfl

lemma Reply.natReturnEntry {maps : Maps} {vni : UInt32} {ct : Conntrack} {e : CtEntry}
  (registered : maps.isNatIp vni (addrAt hdr 16) = true)
  (unclaimed : lbSelectForward pkt maps ethLen vni = none)
  (held : ct.lookup (revKey vni (addrAt hdr 16) port proto) = some e)
  (flags : e.flags &&& ctRewriteDst ≠ 0) :
  natReturnEntry maps ct pkt vni = some (revKey vni (addrAt hdr 16) port proto, e) := by
  simp only [Flowplane.natReturnEntry, unclaimed, reply.natReturnKey registered, held]
  simp [flags]

variable {e : CtEntry} (short : ihl hdr = 5) (back : e.flags &&& ctRewriteSrc = 0 /\ e.flags &&& ctRewriteDst ≠ 0)

include short

omit reply in
lemma l4Start_short : l4Start ethLen hdr = ethLen + 20 := by
  rw [l4Start, short]
  rfl

include back

lemma Reply.ctApply (nonzero : e.xlatePort ≠ 0) : ∃ check, pkt.readU16Be (ethLen + 20 + checkRel proto) = some check /\
    ctApply pkt ethLen e = some (patchL4 (patchHeader pkt ethLen 16
        (csumReplace4 (wordAt hdr 10) (addrAt hdr 16) e.xlateIp) e.xlateIp) (ethLen + 20) proto 2
      (natCheck proto check (addrAt hdr 16) e.xlateIp port e.xlatePort) e.xlatePort) := by
  obtain ⟨has, rfl⟩ := reply.hasPorts
  have start := l4Start_short short
  have window := reply.window
  rw [start] at window
  have long := reply.long
  have length := length_patchHeader reply.header 16 (by decide)
    (csumReplace4 (wordAt hdr 10) (addrAt hdr 16) e.xlateIp) e.xlateIp
  -- what stands behind the header is not touched by the header's patch
  have word (off : Nat) (after : ethLen + 20 <= off) :
    (patchHeader pkt ethLen 16 (csumReplace4 (wordAt hdr 10) (addrAt hdr 16) e.xlateIp)
      e.xlateIp).readU16Be off = pkt.readU16Be off := by
    rw [patchHeader, readU16Be_splice_apart _ e.xlateIp (by rw [length_splice pkt _ _ (by omega)]; omega) _
      (.inr (by omega)), readU16Be_splice_apart pkt _ (by omega) _ (.inr (by omega))]
  obtain ⟨check, read⟩ := readU16Be_of_within pkt (ethLen + 20 + checkRel (l4Proto hdr))
    (by have := checkRel_fits (l4Proto hdr); omega)
  have old : pkt.readU16Be (ethLen + 20 + portRel (l4Proto hdr) 2) = some port := by
    obtain ⟨hdr', header', _, _, _, _, readDp⟩ := l4Ports_eq_some.mp reply.ports
    rw [reply.header] at header'
    cases header'
    rw [<- start]
    exact readDp
  refine ⟨check, read, ?_⟩
  rw [ctApply_eq reply.header short (.inr ⟨back.1, back.2, rfl, rfl⟩),
    ctApplyL4_eq has (by omega) (.inr rfl) (by rw [word _ (by omega)]; exact read)
      (by rw [word _ (by omega)]; exact old) _ _ nonzero]

lemma Reply.restored (given : e.xlatePort ≠ 0 \/ proto = ipprotoIcmp) :
  ∃ out check, Flowplane.ctApply pkt ethLen e = some out /\ out.length = pkt.length /\
    out.readArray 20 ethLen = some (copyAt (copyAt hdr 10 (be16 check)) 16 e.xlateIp) /\
    out.readArray 4 (ethLen + 16) = some e.xlateIp /\
    (e.xlatePort ≠ 0 -> ∃ sport', l4Ports out ethLen = some (proto, sport', e.xlatePort)) := by
  have start := l4Start_short short
  by_cases nonzero : e.xlatePort ≠ 0
  · obtain ⟨check, _, applied⟩ := reply.ctApply short back nonzero
    obtain ⟨header, addr, sport', dport', ports, _, restored⟩ := translated_reads reply.header reply.ports
      reply.words reply.window (.inr rfl) (.inr rfl) (csumReplace4 (wordAt hdr 10) (addrAt hdr 16) e.xlateIp)
      (natCheck proto check (addrAt hdr 16) e.xlateIp port e.xlatePort) e.xlatePort e.xlateIp
    rw [start] at header addr ports
    refine ⟨_, _, applied, ?_, header, addr, fun _ => ⟨sport', by rw [ports, restored rfl]⟩⟩
    have length := length_patchHeader reply.header 16 (by decide)
      (csumReplace4 (wordAt hdr 10) (addrAt hdr 16) e.xlateIp) e.xlateIp
    rw [length_patchL4 (by rw [length, <- start]; exact reply.window) (.inr rfl), length]
  · have icmp := given.resolve_left nonzero
    have applied := ctApply_eq reply.header short (.inr ⟨back.1, back.2, rfl, rfl⟩ :
      e.flags &&& ctRewriteSrc ≠ 0 /\ 16 = 12 /\ 2 = 0 \/ _)
    have kept (q : Pkt) : ctApplyL4 q (ethLen + 20) (l4Proto hdr) 2 (addrAt hdr 16) e.xlateIp e.xlatePort = q := by
      have zero : ¬ (ipprotoIcmp = ipprotoIcmp /\ e.xlatePort ≠ 0) := fun both => nonzero both.2
      have one : ¬ ipprotoIcmp = ipprotoTcp := by decide
      have two : ¬ ipprotoIcmp = ipprotoUdp := by decide
      rw [reply.hasPorts.2, icmp, ctApplyL4, if_neg one, if_neg two, if_neg zero]
    rw [kept] at applied
    exact ⟨_, _, applied, length_patchHeader reply.header 16 (by decide) _ _,
      header_patchHeader reply.header 16 (by decide) _ _,
      readArray_patchHeader_addr reply.header 16 (by decide) _ _, fun given => absurd given nonzero⟩

omit back in
lemma Reply.ingressParse {q : Pkt} {check : UInt16} {addr : Vector UInt8 4}
  (header : q.readArray 20 ethLen = some (copyAt (copyAt hdr 10 (be16 check)) 16 addr))
  (length : q.length = pkt.length) {guestIpv6 : Vector UInt8 16} (dual : guestIpv6 ≠ Vector.replicate 16 0)
  (long : 20 <= wordAt hdr 2) (mac : Vector UInt8 6) (origSport : UInt16) :
  ∃ x, nat64IngressParse q ethLen guestIpv6 mac origSport = some x /\ x.l4Proto = proto /\
    x.guestIpv6 = guestIpv6 /\ x.origSport = origSport := by
  obtain ⟨has, rfl⟩ := reply.hasPorts
  have kept := patchedHeader_kept hdr (.inr rfl : 16 = 12 \/ 16 = 16) check addr
  have total : wordAt (copyAt (copyAt hdr 10 (be16 check)) 16 addr) 2 = wordAt hdr 2 := by
    rw [wordAt_copyAt_apart _ _ 16 2 (.inl (by decide)) (by decide),
      wordAt_copyAt_apart _ _ 10 2 (.inl (by decide)) (by decide)]
  have window := reply.window
  rw [l4Start_short short] at window
  have place : l4CksumOff (l4Proto hdr) = some (checkRel (l4Proto hdr)) := by
    rcases has with tcp | udp | icmp
    · rw [tcp]
      rfl
    · rw [udp]
      rfl
    · rw [icmp]
      rfl
  obtain ⟨cksum, read⟩ := readU16Be_of_within q (ethLen + 20 + checkRel (l4Proto hdr))
    (by have := checkRel_fits (l4Proto hdr); omega)
  have taken : ¬ (ihl hdr ≠ 5 \/ wordAt hdr 2 < 20 \/ guestIpv6 = Vector.replicate 16 0) := by
    rintro (options | truncated | none)
    · exact options short
    · exact absurd long (UInt16.not_le.mpr truncated)
    · exact dual none
  simp only [nat64IngressParse, header, bind_eq_bind, bind_some, kept.2.1, kept.1, place, read, total, if_neg taken]
  exact ⟨_, rfl, rfl, rfl, rfl⟩

variable {maps : Maps} {s : Flows} {inp : UplinkIn} {guest : IfaceValue}
  (registered : maps.isNatIp inp.vni (addrAt hdr 16) = true)
  (unclaimed : lbSelectForward pkt maps ethLen inp.vni = none)
  (held : s.conntrack.lookup (revKey inp.vni (addrAt hdr 16) port proto) = some e)
  (home : maps.ifaces inp.vni e.xlateIp = some guest) (isLocal : guest.isLocal ≠ 0)

omit reply short back in
include home isLocal in
lemma resolveUplinkTarget_local : resolveUplinkTarget maps inp.vni e.xlateIp inp.node
  = .tap guest.tapIfindex guest.guestMac (guest.peerCapable != 0) := by
  simp [resolveUplinkTarget, uplinkTarget, home, isLocal, Option.filter]

include registered unclaimed held home isLocal

lemma Reply.delivered (plain : e.flags &&& ctFNat64 = 0) (nonzero : e.xlatePort ≠ 0) (fw : FwReads) :
  ∃ p, processUplinkRx maps fw s pkt inp
      = (⟨if guest.peerCapable != 0 then .redirectPeer guest.tapIfindex else .redirect guest.tapIfindex, none⟩, p, s) /\
    p.readU16Be 12 = some ethPIp /\ p.readArray 4 (ethLen + 16) = some e.xlateIp /\
    ∃ sport', l4Ports p ethLen = some (proto, sport', e.xlatePort) := by
  obtain ⟨out, _, applied, _, _, addr, ports⟩ := reply.restored short back (.inl nonzero)
  obtain ⟨sport', ports⟩ := ports nonzero
  have entry := reply.natReturnEntry registered unclaimed held back.2
  have target : resolveUplinkTarget maps inp.vni e.xlateIp inp.node = _ := resolveUplinkTarget_local home isLocal
  have framed : 14 <= out.length := by
    have within := readArray_le out _ addr
    omega
  obtain ⟨p, same, kind, delivered⟩ := decapAndRewrite_delivers framed guest.tapIfindex guest.guestMac ethPIp
    (resolveDeliveryL3 maps guest.tapIfindex) (guest.peerCapable != 0)
  refine ⟨p, ?_, kind, ?_, sport', ?_⟩
  · have normal : ¬ e.flags &&& ctFNat64 ≠ 0 := not_not.mpr plain
    simp only [processUplinkRx, entry, if_neg normal, processUplinkNatReturn, natReturnApply,
      reply.natReturnKey registered, held, Option.filter]
    simp [back.2, applied, target, delivered]
  · rw [same 4 _ (Nat.le_add_right _ _), addr]
  · rw [l4Ports_congr same, ports]

lemma Reply.expanded (nat64 : e.flags &&& ctFNat64 ≠ 0) (given : e.xlatePort ≠ 0 \/ proto = ipprotoIcmp)
  (long : 20 <= wordAt hdr 2) {m : PortMeta} (port6 : maps.portMeta guest.tapIfindex = some m)
  (dual : m.guestIpv6 ≠ Vector.replicate 16 0) (fw : FwReads) :
  ∃ p s', processUplinkRx maps fw s pkt inp = (⟨.redirect guest.tapIfindex, none⟩, p, s') /\
    p.readU16Be 12 = some ethPIpv6 /\ p.readArray 16 (ethLen + 24) = some m.guestIpv6 /\
    ∃ sport', l4PortsV6 p ethLen = some (ingressNext proto, sport', e.xlatePort) := by
  have entry := reply.natReturnEntry registered unclaimed held back.2
  have target : resolveUplinkTarget maps inp.vni e.xlateIp inp.node = _ := resolveUplinkTarget_local home isLocal
  have address : resolveNat64GuestIpv6 maps guest.tapIfindex = m.guestIpv6 := by
    simp [resolveNat64GuestIpv6, port6]
  -- the entry is refreshed first, which leaves its translation
  let r := refreshed pkt ethLen e inp.now fw.epoch
  obtain ⟨q, check, applied, length, header, _, ports⟩ := reply.restored (e := r) short back given
  obtain ⟨x, parsed, proto', guest6, sport'⟩ := reply.ingressParse short header length dual long guest.guestMac r.xlatePort
  have has : HasPorts x.l4Proto := proto' ▸ reply.hasPorts.1
  have window : ethLen + 40 + l4Window x.l4Proto <= (growHead q 20).length := by
    have within := reply.window
    rw [l4Start_short short] at within
    rw [length_growHead, length, proto']
    omega
  obtain ⟨n, w, size, written, id, word⟩ := nat64IngressWrite_window gwMac has window
  have fits : ethLen + 40 + n <= (growHead q 20).length := by omega
  have header6 := expanded_header x gwMac w fits
  have kind := expanded_ethertype x gwMac w fits
  have first := expanded_word x gwMac w fits (portRel (ingressNext proto) 0) (by
    rw [size, proto']
    exact ingressPort_fits reply.hasPorts.1 (.inl rfl))
  have second := expanded_word x gwMac w fits (portRel (ingressNext proto) 2) (by
    rw [size, proto']
    exact ingressPort_fits reply.hasPorts.1 (.inr rfl))
  have dport : wordAt w (portRel (ingressNext proto) 2) = e.xlatePort := by
    by_cases icmp : proto = ipprotoIcmp
    · rw [icmp]
      exact (id (proto'.trans icmp)).trans sport'
    · obtain ⟨_, found⟩ := ports (given.resolve_right icmp)
      obtain ⟨hdr', header', _, _, has', _, readDp⟩ := l4Ports_eq_some.mp found
      rw [header] at header'
      have same := some.inj header'
      subst same
      have segment : portRel (ingressNext proto) 2 = 2 /\ portRel proto 2 = 2 := by
        rcases has' with rfl | rfl | rfl
        · exact ⟨rfl, rfl⟩
        · exact ⟨rfl, rfl⟩
        · exact absurd rfl icmp
      have behind : l4Start ethLen (copyAt (copyAt hdr 10 (be16 check)) 16 r.xlateIp) = ethLen + 20 :=
        l4Start_short ((patchedHeader_kept hdr (.inr rfl) check _).1.trans short)
      rw [behind, segment.2] at readDp
      rw [segment.1]
      refine word (by rw [proto']; exact icmp) _ ?_
      rw [show ethLen + 40 + 2 = 20 + (ethLen + 20 + 2) from rfl, Pkt.readU16Be, readArray_growHead]
      exact readDp
  generalize splice (ingressHeaders (growHead q 20) gwMac x) (ethLen + 40) w = out at *
  refine ⟨out, { s with conntrack := s.conntrack.insert (revKey inp.vni (addrAt hdr 16) port proto) r }, ?_, kind,
    ?_, _, l4PortsV6_eq_some.mpr ⟨?_, ?_, first, by rw [second, dport]⟩⟩
  · have ingress : processUplinkNat64Ingress pkt ⟨guest.tapIfindex, guest.guestMac, m.guestIpv6, r⟩
      = (.redirect guest.tapIfindex, out) := by
      simp only [processUplinkNat64Ingress, applied, parsed, written]
    simp only [processUplinkRx, entry, if_pos nat64, returnNat64]
    rw [show (refreshed pkt ethLen e inp.now fw.epoch).xlateIp = e.xlateIp from rfl, target]
    simp only [address]
    rw [ingress]
  · rw [<- guest6]
    exact ipv6Header_dest _ _ _ _ _ header6
  · rw [readU8_eq, readArray_byte out ethLen header6 6 (by decide), ingressHeader,
      ipv6Header_byte _ _ _ _ _ 6 (by decide), proto']
    rfl
  · exact hasPorts6_ingressNext reply.hasPorts.1

end

end Ectobase.Flowplane
