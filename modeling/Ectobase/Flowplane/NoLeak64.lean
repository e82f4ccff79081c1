import Ectobase.Flowplane.NoLeak6
import Ectobase.Flowplane.Nat64Writes

namespace Ectobase.Flowplane

open Shared Option

def probeStart (key : CtKey) (range : UInt16) : UInt16 :=
  (hash5 key.srcIp key.dstIp key.srcPort key.dstPort key.proto % range.toUInt32).toUInt16

variable {pkt : Pkt} (maps : Maps) (ct : Conntrack)

def PortFor (nat : NatValue) (key : CtKey) : Prop :=
  (∃ v, ct.lookup key = some v /\ v.flags &&& ctFSrcNat ≠ 0) \/
    ∃ j < probeLimit, PortFree ct key.vni nat key.proto (nat.portMax - nat.portMin)
      (probeStart key (nat.portMax - nat.portMin) + UInt16.ofNat j)

lemma nat64Allocate_isSome {ct : Conntrack} {nat : NatValue} {key : CtKey} (now : UInt64) :
  (nat64Allocate ct nat key (nat.portMax - nat.portMin) now).isSome ↔ PortFor ct nat key := by
  have fresh := probe_isSome_iff ct key.vni nat key.proto (probeStart key (nat.portMax - nat.portMin))
    (nat.portMax - nat.portMin) probeLimit 0
  simp only [UInt16.zero_add] at fresh
  unfold nat64Allocate PortFor
  split
  next v held =>
    split
    next tracked => simp [held, tracked]
    next untracked =>
      rw [isSome_map]
      simp only [held, some.injEq, exists_eq_left', untracked, false_or]
      exact fresh
  next absent =>
    rw [isSome_map]
    simp only [absent, reduceCtorEq, false_and, exists_false, false_or]
    exact fresh

def NoLeak64 (s : Flows) (pkt : Pkt) (inp : GuestTxNat64In) (natIp : Vector UInt8 4) : Prop :=
  let r := processGuestTxNat64 maps s pkt inp
  r.1.action = .drop \/ r.2.1.readU16Be 12 = some ethPIp /\ r.2.1.readArray 4 (ethLen + 12) = some natIp /\
      ∃ f e, nat64Flow pkt maps.nat ethLen inp.port.vni inp.port.guestIpv4 = some f /\
        r.2.2.conntrack.lookup (f.key inp.port.vni inp.port.guestIpv4) = some e /\
        e.flags &&& ctFSrcNat ≠ 0 /\ carriedPort r.2.1 = some e.xlatePort

def Nat64Covers (pkt : Pkt) (port : PortMeta) : Prop :=
  ∃ f, nat64Flow pkt maps.nat ethLen port.vni port.guestIpv4 = some f /\ PortFor ct f.binding (f.key port.vni port.guestIpv4)

lemma nat64Flow_binding {nat : NatConfig} {off : Nat} {vni : UInt32} {guestIpv4 : Vector UInt8 4}
  {f : Nat64Flow} (flow : nat64Flow pkt nat off vni guestIpv4 = some f) :
  nat.lookup ⟨vni, guestIpv4⟩ = some f.binding /\ f.binding.portMax - f.binding.portMin ≠ 0 := by
  simp only [nat64Flow, bind_eq_bind, bind_eq_some_iff] at flow
  obtain ⟨_, _, binding, bound, _, _, _, _, _, _, _, _, last⟩ := flow
  split at last
  · cases last
  next taken =>
    cases last
    exact ⟨bound, fun empty => taken (.inr (.inl empty))⟩

lemma nat64EgressParse_allocated {nat : NatConfig} {ct ct' : Conntrack} {off : Nat} {vni : UInt32}
  {guest : Vector UInt8 4} {now : UInt64} {natPort : UInt16} {f : Nat64Flow} (framed : ethLen <= off)
  (flow : nat64Flow pkt nat off vni guest = some f)
  (allocated : nat64Allocate ct f.binding (f.key vni guest) (f.binding.portMax - f.binding.portMin) now
    = some (natPort, ct')) :
  ∃ x, nat64EgressParse pkt nat ct off vni guest now = (some x, ct') /\
    x.natIpv4 = f.binding.natIpv4 /\ x.natPort = natPort := by
  obtain ⟨_, read, _⟩ := bind_eq_some_iff.mp flow
  have within := readArray_le pkt _ read
  obtain ⟨hop, readHop⟩ : ∃ hop, pkt.readU8 (off + 7) = some hop := by
    obtain ⟨v, found⟩ := readArray_of_within (n := 1) pkt (off + 7) (by omega)
    exact ⟨_, by rw [Pkt.readU8, found]; rfl⟩
  obtain ⟨ethDst, readEthDst⟩ := readArray_of_within (n := 6) pkt (off - ethLen) (by omega)
  obtain ⟨ethSrc, readEthSrc⟩ := readArray_of_within (n := 6) pkt (off - ethLen + 6) (by omega)
  exact ⟨⟨f.binding.natIpv4, addrAt f.ip6Dst 12, natPort, f.l4ProtoV4, f.sport, f.l4Len, hop, f.ip6Src,
    f.ip6Dst, f.cksum, ethDst, ethSrc⟩,
    by simp only [nat64EgressParse, flow, allocated, readHop, readEthDst, readEthSrc], rfl, rfl⟩

lemma nat64EgressParse_cases (port : PortMeta) (now : UInt64) : (¬ Nat64Covers maps ct pkt port /\
    nat64EgressParse pkt maps.nat ct ethLen port.vni port.guestIpv4 now = (none, ct)) \/
    ∃ f natPort ct' x, nat64Flow pkt maps.nat ethLen port.vni port.guestIpv4 = some f /\
      nat64Allocate ct f.binding (f.key port.vni port.guestIpv4)
        (f.binding.portMax - f.binding.portMin) now = some (natPort, ct') /\
      nat64EgressParse pkt maps.nat ct ethLen port.vni port.guestIpv4 now = (some x, ct') /\
      x.natIpv4 = f.binding.natIpv4 /\ x.natPort = natPort := by
  cases flow : nat64Flow pkt maps.nat ethLen port.vni port.guestIpv4 with
  | none => exact .inl ⟨by simp [Nat64Covers, flow], by simp [nat64EgressParse, flow]⟩
  | some f =>
    cases allocated : nat64Allocate ct f.binding (f.key port.vni port.guestIpv4)
      (f.binding.portMax - f.binding.portMin) now with
    | none =>
      refine .inl ⟨?_, by simp [nat64EgressParse, flow, allocated]⟩
      rintro ⟨f', flow', available⟩
      rw [flow] at flow'
      cases flow'
      rw [<- nat64Allocate_isSome now, allocated] at available
      cases available
    | some result =>
      obtain ⟨natPort, ct'⟩ := result
      obtain ⟨x, parsed⟩ := nat64EgressParse_allocated (Nat.le_refl ethLen) flow allocated
      exact .inr ⟨f, natPort, ct', x, rfl, allocated, parsed⟩

lemma nat64EgressWrite_reads {p out : Pkt} {x : Nat64Xlate} (written : nat64EgressWrite p ethLen true x = some out) :
  out.readU16Be 12 = some ethPIp /\ out.readArray 4 (ethLen + 12) = some x.natIpv4 /\ carriedPort out = some x.natPort := by
  obtain ⟨has, n, w, size, fits, same, word⟩ := nat64EgressWrite_window written
  have header := emitted_header x w fits
  have ethertype := emitted_ethertype x w fits
  have first := portRel_fits x.l4ProtoV4 (.inl rfl : (0 : Nat) = 0 \/ 0 = 2)
  have second := portRel_fits x.l4ProtoV4 (.inr rfl : (2 : Nat) = 0 \/ 2 = 2)
  have sport := emitted_word x w fits (portRel x.l4ProtoV4 0) (by omega)
  have dport := emitted_word x w fits (portRel x.l4ProtoV4 2) (by omega)
  rw [<- same] at header ethertype sport dport
  generalize hdr_eq : ipv4Header (20 + x.l4Len) x.hopLimit x.l4ProtoV4 x.natIpv4 x.ipv4Dst = hdr at header
  have start : ihl hdr = 5 := by rw [<- hdr_eq, ipv4Header_start]
  have proto : l4Proto hdr = x.l4ProtoV4 := by rw [<- hdr_eq, ipv4Header_proto]
  have fragment : fragmentOffset hdr = 0 := by rw [<- hdr_eq, ipv4Header_fragment]
  have source : addrAt hdr 12 = x.natIpv4 := by rw [<- hdr_eq, ipv4Header_source]
  have l4 : l4Start ethLen hdr = ethLen + 20 := by
    rw [l4Start, start]
    rfl
  have whole : wholeHeader out = true := by
    rw [wholeHeader_eq header, start]
    decide
  refine ⟨ethertype, by rw [addrAt_header header 12 (by decide), source], ?_⟩
  have parsed : l4Ports out ethLen = some (x.l4ProtoV4, wordAt w (portRel x.l4ProtoV4 0), wordAt w (portRel x.l4ProtoV4 2)) :=
    l4Ports_eq_some.mpr ⟨hdr, header, fragment, proto, has, by rw [l4]; exact sport, by rw [l4]; exact dport⟩
  rw [carriedPort, if_pos whole, parsed, map_some, word]

lemma noLeak64_iff {maps : Maps} {s : Flows} {inp : GuestTxNat64In} {b : NatValue} (ipv6 : pkt.readU16Be 12 = some ethPIpv6)
  (bound : maps.nat.lookup ⟨inp.port.vni, inp.port.guestIpv4⟩ = some b) :
  NoLeak64 maps s pkt inp b.natIpv4 ↔ Nat64Covers maps s.conntrack pkt inp.port := by
  unfold NoLeak64 processGuestTxNat64
  rcases nat64EgressParse_cases maps s.conntrack inp.port 0 with
    ⟨uncovered, parsed⟩ | ⟨f, natPort, ct', x, flow, allocated, parsed, address, port⟩
  · -- what the parser does not take is passed on as it is, as IPv6
    rw [parsed]
    refine iff_of_false ?_ uncovered
    rintro (dropped | ⟨ethertype, _⟩)
    · cases dropped
    · dsimp only at ethertype
      rw [ipv6] at ethertype
      exact absurd ethertype (by decide)
  · have available : PortFor s.conntrack f.binding (f.key inp.port.vni inp.port.guestIpv4) := by
      rw [<- nat64Allocate_isSome 0, allocated]
      rfl
    have same := (nat64Flow_binding flow).1
    rw [bound] at same
    cases same
    rw [parsed]
    refine iff_of_true ?_ ⟨f, flow, available⟩
    obtain ⟨e, held, natted, pinned⟩ := nat64Allocate_pins allocated
    have emitted {out : Pkt} (written : (shrinkHead pkt 20).bind (fun pkt => nat64EgressWrite pkt ethLen true x) = some out) :
      out.readU16Be 12 = some ethPIp /\ out.readArray 4 (ethLen + 12) = some f.binding.natIpv4 /\
        carriedPort out = some e.xlatePort := by
      obtain ⟨p, _, written⟩ := bind_eq_some_iff.mp written
      rw [pinned, <- port, <- address]
      exact nat64EgressWrite_reads written
    dsimp only
    split
    · exact .inl rfl
    next out written =>
      obtain ⟨ethertype, source, carried⟩ := emitted written
      split
      · exact .inr ⟨ethertype, source, f, e, flow, held, natted, carried⟩
      · exact .inr ⟨ethertype, source, f, e, flow, held, natted, carried⟩

theorem no_leak_iff (pkt : Pkt) : (∀ inp b dst route,
    maps.nat.lookup ⟨inp.port.vni, inp.port.guestIpv4⟩ = some b -> b.portMax - b.portMin ≠ 0 ->
    pkt.readArray 4 (ethLen + 16) = some dst -> maps.route4 inp.port.vni dst = some route ->
    route.isExternal ≠ 0 ->
    ((∀ fw s, NoLeak maps fw s pkt inp b.natIpv4) ↔ SnatCovers maps pkt inp.port.vni b.natIpv4)) /\
  (∀ inp b dst route, maps.nat6.lookup ⟨inp.port.vni, inp.port.guestIpv6⟩ = some b -> b.portMax - b.portMin ≠ 0 ->
    pkt.readArray 16 (ethLen + 24) = some dst -> maps.route6 inp.port.vni dst = some route ->
    route.isExternal ≠ 0 ->
    ((∀ fw s, NoLeak6 maps fw s pkt inp b.natIpv6) ↔ SnatCovers6 maps pkt inp.port.vni b.natIpv6)) /\
  (∀ s inp b dst, maps.nat.lookup ⟨inp.port.vni, inp.port.guestIpv4⟩ = some b -> b.portMax - b.portMin ≠ 0 ->
    pkt.readU16Be 12 = some ethPIpv6 -> pkt.readArray 16 (ethLen + 24) = some dst ->
    isNat64Addr dst = true ->
    (NoLeak64 maps s pkt inp b.natIpv4 ↔ Nat64Covers maps s.conntrack pkt inp.port)) := by
  refine ⟨?_, ?_, ?_⟩
  · intro inp b dst route _ _ read routed external
    exact ⟨covers_of_noLeak read routed external, noLeak_of_covers read routed external⟩
  · intro inp b dst route _ _ read routed external
    exact ⟨covers6_of_noLeak read routed external, noLeak6_of_covers read routed external⟩
  · intro s inp b dst bound _ ipv6 read _
    exact noLeak64_iff ipv6 bound

def Maps.outward (nat : NatConfig) (nat6 : Map NatKey6 NatValue6) : Maps := { Maps.blank with
  route4 := fun _ _ => some ⟨0, Octets.zero 16, 1⟩
  route6 := fun _ _ => some ⟨0, Octets.zero 16, 1⟩
  nat := nat
  nat6 }

def natGuest : GuestTxIn := ⟨⟨5, guestAddr, Vector.replicate 16 1, 0⟩, 3, 0⟩

theorem dns_frame_covered : let pkt := List.replicate 12 0 ++ [8, 0] ++ dnsQuery 1
  ∀ fw s, NoLeak (Maps.outward onePort ∅) fw s pkt natGuest natAddr := by
  intro pkt
  have bound : onePort.lookup ⟨5, guestAddr⟩ = some ⟨natAddr, 1024, 1025⟩ :=
    Finmap.lookup_insert _
  refine ((no_leak_iff (Maps.outward onePort ∅) pkt).1 natGuest ⟨natAddr, 1024, 1025⟩
    dnsAddr ⟨0, Octets.zero 16, 1⟩ bound (by decide) (by decide) rfl (by decide)).mpr ?_
  obtain ⟨hdr, header⟩ := readArray_of_within (n := 20) pkt ethLen (by decide)
  have ports : l4Ports pkt ethLen = some (17, 0x1301, 53) := by decide
  have source : addrAt hdr 12 = guestAddr :=
    mem_unique (addrAt_header header 12 (by decide)) (by decide)
  have first : hdr[0] = 0x45 := mem_unique (readArray_byte pkt ethLen header 0 (by decide)) (by decide)
  refine .inr ⟨hdr, _, header, by rw [source]; exact bound, by decide, fun proto sport dport found => ?_⟩
  rw [ports] at found
  cases found
  refine ⟨rfl, by decide, ?_⟩
  rw [l4Start, ihl, first]
  decide

def espFrame : Pkt :=
  List.replicate 12 0 ++ [0x86, 0xdd] ++ [0x60, 0, 0, 0, 0, 0, 50, 64] ++ List.replicate 16 1 ++
    [0x20, 0x01, 0x0d, 0xb8, 0, 0, 0, 0, 0, 0, 0, 0, 0, 0, 0, 1]

theorem esp_frame_leaks : ¬ ∀ maps fw s pkt inp b dst route,
  maps.nat6.lookup ⟨inp.port.vni, inp.port.guestIpv6⟩ = some b -> b.portMax - b.portMin ≠ 0 ->
  pkt.readArray 16 (ethLen + 24) = some dst -> maps.route6 inp.port.vni dst = some route ->
  route.isExternal ≠ 0 -> NoLeak6 maps fw s pkt inp b.natIpv6 := by
  intro sealed
  let b : NatValue6 := ⟨Vector.replicate 16 2, 1024, 2048⟩
  let maps := Maps.outward ∅ ((∅ : Map NatKey6 NatValue6).insert ⟨5, Vector.replicate 16 1⟩ b)
  have read : ∃ dst, espFrame.readArray 16 (ethLen + 24) = some dst :=
    readArray_of_within espFrame (ethLen + 24) (by decide)
  obtain ⟨dst, read⟩ := read
  have covered := covers6_of_noLeak read rfl (by decide) fun fw s =>
    sealed maps fw s espFrame natGuest b dst ⟨0, Octets.zero 16, 1⟩ (Finmap.lookup_insert _) (by decide) read rfl
      (by decide)
  rcases covered with ⟨_, _, noted⟩ | ⟨_, _, _, _, _, _, _, _, _, ports, _⟩
  · cases noted
  · have none : l4PortsV6 espFrame ethLen = none := by decide
    rw [none] at ports
    cases ports

end Ectobase.Flowplane
