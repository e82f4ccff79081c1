import Ectobase.Flowplane.SnatLifetime

namespace Ectobase.Flowplane

open Shared Option Conntrack Maps

inductive DualOp where
  | v4 (pkt : Pkt) (now : UInt64) (epoch : UInt32)
  | v6 (pkt : Pkt) (now : UInt64)

def Conntrack.dualStep (nat : NatConfig) (port : PortMeta) (ct : Conntrack) : DualOp -> Conntrack
  | .v4 pkt now epoch => (snatEgress pkt nat ct ethLen port.vni true now epoch).2.2
  | .v6 pkt now => (nat64EgressParse pkt nat ct ethLen port.vni port.guestIpv4 now).2

inductive Family where
  | plain
  | nat64
  deriving DecidableEq

def DualOp.Sends (nat : NatConfig) (port : PortMeta) (ct : Conntrack) (key : CtKey) (p : UInt16) : DualOp -> Family -> Prop
  | .v4 pkt now epoch, .plain =>
    ctKey pkt ethLen port.vni = some key /\ wholeHeader pkt = true /\
    (pkt.readArray 20 ethLen).all (fun hdr => l4Start ethLen hdr + l4Window key.proto <= pkt.length) = true /\
    (∃ b, nat.lookup ⟨port.vni, key.srcIp⟩ = some b /\ b.portMax - b.portMin ≠ 0) /\
    (snatEgress pkt nat ct ethLen port.vni true now epoch).1 = .continue /\
    carriedPort (snatEgress pkt nat ct ethLen port.vni true now epoch).2.1 = some p
  | .v6 pkt now, .nat64 =>
    ∃ f x, nat64Flow pkt nat ethLen port.vni port.guestIpv4 = some f /\ f.key port.vni port.guestIpv4 = key /\
      (nat64EgressParse pkt nat ct ethLen port.vni port.guestIpv4 now).1 = some x /\ x.natPort = p
  | _, _ => False

def OwnFamily (ct : Conntrack) (key : CtKey) (family : Family) : Prop :=
  ∀ e, ct.lookup key = some e -> e.flags &&& ctFSrcNat ≠ 0 -> (e.flags &&& ctFNat64 ≠ 0 ↔ family = .nat64)

def Family.Returned (guest : IfaceValue) (port : PortMeta) (key : CtKey) (r : UplinkOut × Pkt × Flows) : Family -> Prop
  | .plain =>
    r.1.action = (if guest.peerCapable != 0 then .redirectPeer guest.tapIfindex
      else .redirect guest.tapIfindex) /\
    r.2.1.readU16Be 12 = some ethPIp /\ r.2.1.readArray 4 (ethLen + 16) = some port.guestIpv4 /\
    (l4Ports r.2.1 ethLen).map (fun ports => ports.2.2) = some key.srcPort
  | .nat64 =>
    r.1.action = .redirect guest.tapIfindex /\
    r.2.1.readU16Be 12 = some ethPIpv6 /\ r.2.1.readArray 16 (ethLen + 24) = some port.guestIpv6 /\
    (l4PortsV6 r.2.1 ethLen).map (fun ports => ports.2.2) = some key.srcPort

structure DualGuest (maps : Maps) where
  port : PortMeta
  guest : IfaceValue
  binding : NatValue
  ipv4 : port.guestIpv4 ≠ Vector.replicate 4 0
  ipv6 : port.guestIpv6 ≠ Vector.replicate 16 0
  bound : maps.nat.lookup ⟨port.vni, port.guestIpv4⟩ = some binding
  registered : maps.isNatIp port.vni binding.natIpv4 = true
  home : maps.ifaces port.vni port.guestIpv4 = some guest
  isLocal : guest.isLocal ≠ 0
  known : maps.portMeta guest.tapIfindex = some port

def DualGuest.Returns {maps : Maps} (g : DualGuest maps) (family : Family) (key : CtKey) (p : UInt16)
  (ct : Conntrack) : Prop :=
  ∀ s fw pkt hdr sport inp, s.conntrack = ct -> inp.vni = g.port.vni -> Reply pkt hdr key.proto sport p ->
    addrAt hdr 16 = g.binding.natIpv4 -> ihl hdr = 5 -> 20 <= wordAt hdr 2 ->
    lbSelectForward pkt maps ethLen inp.vni = none ->
    family.Returned g.guest g.port key (processUplinkRx maps fw s pkt inp)

def Answers (key : CtKey) (e r : CtEntry) : Prop :=
  r.flags = (ctRewriteDst ||| ctFSrcNat) ||| (e.flags &&& ctFNat64) /\ r.xlateIp = key.srcIp /\ r.xlatePort = key.srcPort

def Paired (nat : NatConfig) (ct : Conntrack) : Prop :=
  ∀ key e, key.srcIp ≠ Vector.replicate 4 0 -> ct.lookup key = some e -> e.flags &&& ctFSrcNat ≠ 0 ->
    ∃ b r, nat.lookup ⟨key.vni, key.srcIp⟩ = some b /\
      ct.lookup (revKey key.vni b.natIpv4 e.xlatePort key.proto) = some r /\ Answers key e r

variable {key : CtKey} {nat : NatConfig} {ct ct' : Conntrack} {p : UInt16} {family : Family}

lemma answers_natted {e r : CtEntry} (answers : Answers key e r) :
  r.flags &&& ctFSrcNat ≠ 0 /\ r.flags &&& ctRewriteSrc = 0 /\ r.flags &&& ctRewriteDst ≠ 0 /\
    r.flags &&& ctFNat64 = e.flags &&& ctFNat64 := by
  have bits : ∀ b : BitVec 8, ((ctRewriteDst ||| ctFSrcNat) ||| (UInt8.ofBitVec b &&& ctFNat64)) &&& ctFSrcNat ≠ 0 /\
    ((ctRewriteDst ||| ctFSrcNat) ||| (UInt8.ofBitVec b &&& ctFNat64)) &&& ctRewriteSrc = 0 /\
    ((ctRewriteDst ||| ctFSrcNat) ||| (UInt8.ofBitVec b &&& ctFNat64)) &&& ctRewriteDst ≠ 0 /\
    ((ctRewriteDst ||| ctFSrcNat) ||| (UInt8.ofBitVec b &&& ctFNat64)) &&& ctFNat64
      = UInt8.ofBitVec b &&& ctFNat64 := by decide +kernel
  rw [answers.1]
  exact bits e.flags.toBitVec

lemma answers_congr {e r r' : CtEntry} (answers : Answers key e r) (same : r'.xlation = r.xlation) : Answers key e r' := by
  have flags : r'.flags = r.flags := congrArg (fun x => x.1) same
  have addr : r'.xlateIp = r.xlateIp := congrArg (fun x => x.2.1) same
  have port : r'.xlatePort = r.xlatePort := congrArg (fun x => x.2.2) same
  exact ⟨flags.trans answers.1, addr.trans answers.2.1, port.trans answers.2.2⟩

lemma paired_allocateBy {b : NatValue} {rev : CtEntry} {fwd : UInt16 -> CtEntry} {k : CtKey}
  {range port : UInt16} (paired : Paired nat ct) (bound : nat.lookup ⟨k.vni, k.srcIp⟩ = some b)
  (fresh : ∀ p, (fwd p).xlatePort = p /\ Answers k (fwd p) rev)
  (allocated : allocateBy rev fwd ct b k range = some (port, ct')) : Paired nat ct' := by
  intro key e addr held natted
  rcases allocateBy_cases allocated with ⟨_, _, _, _, rfl⟩ | ⟨_, _, table⟩
  · exact paired key e addr held natted
  · have slot (vni : UInt32) (natIp : Vector UInt8 4) (p : UInt16) (proto : UInt8) : key ≠ revKey vni natIp p proto := by
      rintro rfl
      exact addr rfl
    by_cases mine : key = k
    · subst mine
      rw [table, lookup_insert_ite, if_pos rfl] at held
      cases held
      refine ⟨b, rev, bound, ?_, (fresh port).2⟩
      rw [(fresh port).1, table, lookup_insert_ite, if_neg (slot _ _ _ _).symm, lookup_insert_ite, if_pos rfl]
    · rw [table, lookup_insert_ite, if_neg mine, lookup_insert_ite, if_neg (slot _ _ _ _)] at held
      obtain ⟨b', r, bound', there, answers⟩ := paired key e addr held natted
      obtain ⟨r', there', same⟩ := keptAt_allocateBy allocated _ r there (answers_natted answers).1
      exact ⟨b', r', bound', there', answers_congr answers same⟩

lemma answers_plain (k : CtKey) (b : NatValue) (now : UInt64) (epoch : UInt32) (p : UInt16) :
  (fwdEntry b p now epoch).xlatePort = p /\ Answers k (fwdEntry b p now epoch) (revEntry k now) := by
  refine ⟨rfl, ?_, rfl, rfl⟩
  exact (by decide : ctRewriteDst ||| ctFSrcNat
    = (ctRewriteDst ||| ctFSrcNat) ||| ((ctRewriteSrc ||| ctFSrcNat) &&& ctFNat64))

lemma answers_nat64 (k : CtKey) (b : NatValue) (now : UInt64) (p : UInt16) :
  (nat64FwdEntry b p now).xlatePort = p /\ Answers k (nat64FwdEntry b p now) (nat64RevEntry k now) := by
  refine ⟨rfl, ?_, rfl, rfl⟩
  exact (by decide : ctRewriteDst ||| ctFSrcNat ||| ctFNat64
    = (ctRewriteDst ||| ctFSrcNat) ||| ((ctRewriteSrc ||| ctFSrcNat ||| ctFNat64) &&& ctFNat64))

lemma nat64EgressParse_port {pkt : Pkt} {vni : UInt32} {guestIpv4 : Vector UInt8 4} {now : UInt64}
  {f : Nat64Flow} (flow : nat64Flow pkt nat ethLen vni guestIpv4 = some f)
  (allocated : nat64Allocate ct f.binding (f.key vni guestIpv4) (f.binding.portMax - f.binding.portMin) now = some (p, ct')) :
  (nat64EgressParse pkt nat ct ethLen vni guestIpv4 now).2 = ct' /\
    ∀ x, (nat64EgressParse pkt nat ct ethLen vni guestIpv4 now).1 = some x -> x.natPort = p := by
  simp only [nat64EgressParse, flow, allocated]
  split
  · refine ⟨rfl, fun x found => ?_⟩
    cases found
    rfl
  · exact ⟨rfl, by simp⟩

lemma nat64EgressParse_idle {pkt : Pkt} {vni : UInt32} {guestIpv4 : Vector UInt8 4} {now : UInt64}
  {f : Nat64Flow} (flow : nat64Flow pkt nat ethLen vni guestIpv4 = some f)
  (exhausted : nat64Allocate ct f.binding (f.key vni guestIpv4) (f.binding.portMax - f.binding.portMin) now = none) :
  nat64EgressParse pkt nat ct ethLen vni guestIpv4 now = (none, ct) := by
  simp only [nat64EgressParse, flow, exhausted]

lemma dualStep_cases (nat : NatConfig) (port : PortMeta) (ct : Conntrack) (op : DualOp) :
  dualStep nat port ct op = ct \/ ∃ rev fwd b k range p, nat.lookup ⟨k.vni, k.srcIp⟩ = some b /\
      (∀ p, (fwd p).xlatePort = p /\ Answers k (fwd p) rev) /\
      allocateBy rev fwd ct b k range = some (p, dualStep nat port ct op) := by
  cases op with
  | v4 pkt now epoch =>
    cases header : pkt.readArray 20 ethLen with
    | none => exact .inl (by simp [dualStep, snatEgress, header])
    | some hdr =>
      simp only [dualStep]
      rcases snatEgress_cases header nat ct port.vni now epoch with
        ⟨_, result⟩ | ⟨b, bound, _, ⟨_, result⟩ | ⟨_, _, _, _, ⟨_, result⟩ | ⟨p, ct', allocated, result⟩⟩⟩
      · exact .inl (by rw [result])
      · exact .inl (by rw [result])
      · exact .inl (by rw [result])
      · exact .inr ⟨_, _, b, _, _, p, bound, answers_plain _ b now epoch, by rw [result]; exact allocated⟩
  | v6 pkt now =>
    simp only [dualStep]
    cases flow : nat64Flow pkt nat ethLen port.vni port.guestIpv4 with
    | none => exact .inl (by simp [nat64EgressParse, flow])
    | some f =>
      cases allocated : nat64Allocate ct f.binding (f.key port.vni port.guestIpv4)
        (f.binding.portMax - f.binding.portMin) now with
      | none => exact .inl (by rw [nat64EgressParse_idle flow allocated])
      | some result =>
        obtain ⟨p, ct'⟩ := result
        exact .inr ⟨_, _, f.binding, f.key port.vni port.guestIpv4, _, p, (nat64Flow_binding flow).1,
          answers_nat64 _ f.binding now, by rw [(nat64EgressParse_port flow allocated).1]; exact allocated⟩

lemma dualStep_paired {port : PortMeta} (paired : Paired nat ct) (op : DualOp) : Paired nat (dualStep nat port ct op) := by
  rcases dualStep_cases nat port ct op with same | ⟨_, _, _, _, _, _, bound, fresh, allocated⟩
  · rw [same]
    exact paired
  · exact paired_allocateBy paired bound fresh allocated

lemma dualStep_keptAt (nat : NatConfig) (port : PortMeta) (ct : Conntrack) (op : DualOp) (key : CtKey) :
  KeptAt ct (dualStep nat port ct op) key := by
  rcases dualStep_cases nat port ct op with same | ⟨_, _, _, _, _, _, _, _, allocated⟩
  · rw [same]
    exact keptAt_of_keeps (Keeps.refl ct) key
  · exact keptAt_allocateBy allocated key

def PinnedIn (family : Family) (key : CtKey) (p : UInt16) (ct : Conntrack) : Prop :=
  ∃ e, ct.lookup key = some e /\ e.flags &&& ctFSrcNat ≠ 0 /\ e.xlatePort = p /\ (e.flags &&& ctFNat64 ≠ 0 ↔ family = .nat64)

lemma pinnedIn_keptAt (kept : KeptAt ct ct' key) (pinned : PinnedIn family key p ct) : PinnedIn family key p ct' := by
  obtain ⟨e, held, natted, port, own⟩ := pinned
  obtain ⟨e', held', same⟩ := kept e held natted
  have flags : e'.flags = e.flags := congrArg (fun x => x.1) same
  exact ⟨e', held', by rw [flags]; exact natted, (congrArg (fun x => x.2.2) same).trans port, by rw [flags]; exact own⟩

lemma pinnedIn_allocateBy {rev : CtEntry} {fwd : UInt16 -> CtEntry} {b : NatValue} {range : UInt16}
  (own : OwnFamily ct key family) (pins : ∀ p, (fwd p).flags &&& ctFSrcNat ≠ 0 /\ (fwd
    p).xlatePort = p /\ ((fwd p).flags &&& ctFNat64 ≠ 0 ↔ family = .nat64))
  (allocated : allocateBy rev fwd ct b key range = some (p, ct')) :
  PinnedIn family key p ct' := by
  rcases allocateBy_cases allocated with ⟨v, held, natted, rfl, rfl⟩ | ⟨_, _, rfl⟩
  · exact ⟨v, held, natted, rfl, own v held natted⟩
  · exact ⟨_, Finmap.lookup_insert _, pins p⟩

lemma sends_pins {port : PortMeta} {op : DualOp} (sends : op.Sends nat port ct key p family) (own : OwnFamily ct key family) :
  PinnedIn family key p (dualStep nat port ct op) := by
  cases op with
  | v4 pkt now epoch =>
    cases family with
    | nat64 => exact sends.elim
    | plain =>
      obtain ⟨keyed, whole, window, ⟨b, bound, range⟩, continued, port'⟩ := sends
      have within := readArray_le pkt _ (readDst_of_ctKey keyed)
      obtain ⟨hdr, header⟩ := readArray_of_within (n := 20) pkt ethLen (by omega)
      have pins (q : UInt16) : (fwdEntry b q now epoch).flags &&& ctFSrcNat ≠ 0 /\ (fwdEntry b q now epoch).xlatePort = q /\
        ((fwdEntry b q now epoch).flags &&& ctFNat64 ≠ 0 ↔ Family.plain = .nat64) :=
        ⟨(by decide : (ctRewriteSrc ||| ctFSrcNat) &&& ctFSrcNat ≠ 0), rfl,
          (by decide : (ctRewriteSrc ||| ctFSrcNat) &&& ctFNat64 ≠ 0 ↔ Family.plain = .nat64)⟩
      simp only [dualStep]
      rcases snatEgress_cases header nat ct port.vni now epoch with
        ⟨empty, _⟩ | ⟨b', bound', _, ⟨_, result⟩ | ⟨proto, sport, dport, ports, ⟨_, result⟩ | ⟨q, ct', allocated, result⟩⟩⟩
      · have source : key.srcIp = addrAt hdr 12 := by
          simp only [ctKey, addrAt_header header 12 (by decide), bind_eq_bind, bind_some,
            bind_eq_some_iff] at keyed
          obtain ⟨_, _, same⟩ := keyed
          cases same
          rfl
        rw [source] at bound
        exact absurd (empty b bound) range
      · rw [result] at continued
        cases continued
      · rw [result] at continued
        cases continued
      · have tuple := ctKey_of_header header ports port.vni
        rw [addrAt_source, addrAt_dest, keyed] at tuple
        have same := some.inj tuple
        subst same
        rw [bound] at bound'
        cases bound'
        rw [header] at window
        have reads := rewriteSource_reads header ports whole (by simpa using window) b.natIpv4 q
        rw [result] at port' ⊢
        have chosen : q = p := mem_unique reads.2 port'
        subst chosen
        exact pinnedIn_allocateBy own pins allocated
  | v6 pkt now =>
    cases family with
    | plain => exact sends.elim
    | nat64 =>
      obtain ⟨f, x, flow, rfl, parsed, rfl⟩ := sends
      have pins (q : UInt16) : (nat64FwdEntry f.binding q now).flags &&& ctFSrcNat ≠ 0 /\
        (nat64FwdEntry f.binding q now).xlatePort = q /\
        ((nat64FwdEntry f.binding q now).flags &&& ctFNat64 ≠ 0 ↔ Family.nat64 = .nat64) :=
        ⟨(by decide : (ctRewriteSrc ||| ctFSrcNat ||| ctFNat64) &&& ctFSrcNat ≠ 0), rfl,
          (by decide : (ctRewriteSrc ||| ctFSrcNat ||| ctFNat64) &&& ctFNat64 ≠ 0 ↔ Family.nat64 = .nat64)⟩
      simp only [dualStep]
      cases allocated : nat64Allocate ct f.binding (f.key port.vni port.guestIpv4)
        (f.binding.portMax - f.binding.portMin) now with
      | none =>
        rw [nat64EgressParse_idle flow allocated] at parsed
        cases parsed
      | some result =>
        obtain ⟨q, ct'⟩ := result
        obtain ⟨table, port'⟩ := nat64EgressParse_port flow allocated
        rw [table, port' x parsed]
        exact pinnedIn_allocateBy own pins allocated

lemma returns_of_pinned {maps : Maps} (g : DualGuest maps) (vni : key.vni = g.port.vni) (mine : key.srcIp = g.port.guestIpv4)
  (given : key.srcPort ≠ 0 \/ family = .nat64 /\ key.proto = ipprotoIcmp)
  (paired : Paired maps.nat ct) (pinned : PinnedIn family key p ct) :
  g.Returns family key p ct := by
  intro s fw pkt hdr sport inp table inside reply natIp short long unclaimed
  obtain ⟨e, held, natted, rfl, own⟩ := pinned
  obtain ⟨b, r, bound, there, answers⟩ := paired key e (by rw [mine]; exact g.ipv4) held natted
  rw [vni, mine, g.bound] at bound
  cases bound
  obtain ⟨_, source, dest, flag⟩ := answers_natted answers
  have there' : s.conntrack.lookup (revKey inp.vni (addrAt hdr 16) e.xlatePort key.proto) = some r := by
    rw [table, inside, natIp, <- vni]
    exact there
  have registered : maps.isNatIp inp.vni (addrAt hdr 16) = true := by
    rw [inside, natIp]
    exact g.registered
  have home : maps.ifaces inp.vni r.xlateIp = some g.guest := by
    rw [inside, answers.2.1, mine]
    exact g.home
  cases family with
  | plain =>
    have plain : r.flags &&& ctFNat64 = 0 := by
      rw [flag]
      by_contra tagged
      exact absurd (own.mp tagged) (by decide)
    have nonzero : r.xlatePort ≠ 0 := by
      rw [answers.2.2]
      exact given.resolve_right (by rintro ⟨other, _⟩; cases other)
    obtain ⟨q, result, kind, dst, _, ports⟩ := reply.delivered short ⟨source, dest⟩ registered unclaimed there'
      home g.isLocal plain nonzero fw
    rw [result]
    refine ⟨rfl, kind, dst.trans (by rw [answers.2.1, mine]), ?_⟩
    change (l4Ports q ethLen).map _ = _
    rw [ports, map_some, answers.2.2]
  | nat64 =>
    have nat64 : r.flags &&& ctFNat64 ≠ 0 := by
      rw [flag]
      exact own.mpr rfl
    have given' : r.xlatePort ≠ 0 \/ key.proto = ipprotoIcmp := by
      rw [answers.2.2]
      exact given.imp_right fun both => both.2
    obtain ⟨q, _, result, kind, dst, _, ports⟩ := reply.expanded short ⟨source, dest⟩ registered unclaimed there'
      home g.isLocal nat64 given' long g.known g.ipv6 fw
    rw [result]
    refine ⟨rfl, kind, dst, ?_⟩
    change (l4PortsV6 q ethLen).map _ = _
    rw [ports, map_some, answers.2.2]

lemma sends_vni {port : PortMeta} {op : DualOp} (sends : op.Sends nat port ct key p family) : key.vni = port.vni := by
  cases op with
  | v4 pkt now epoch =>
    cases family with
    | nat64 => exact sends.elim
    | plain => exact ctKey_vni sends.1
  | v6 pkt now =>
    cases family with
    | plain => exact sends.elim
    | nat64 =>
      obtain ⟨_, _, _, rfl, _⟩ := sends
      rfl

theorem dual_stack_returns (maps : Maps) (g : DualGuest maps) (ops : List DualOp) (i n : Nat) (op : DualOp)
  (key : CtKey) (p : UInt16) (family : Family) (here : ops[i]? = some op) (later : i < n)
  (sends : op.Sends maps.nat g.port ((ops.take i).foldl (dualStep maps.nat g.port) ∅) key p family)
  (mine : key.srcIp = g.port.guestIpv4)
  (own : OwnFamily ((ops.take i).foldl (dualStep maps.nat g.port) ∅) key family)
  (given : key.srcPort ≠ 0 \/ family = .nat64 /\ key.proto = ipprotoIcmp) :
  g.Returns family key p ((ops.take n).foldl (dualStep maps.nat g.port) ∅) := by
  have any : Along (dualStep maps.nat g.port) (fun _ _ => True) ∅ ops := along_true _ _ _
  have start : Paired maps.nat ∅ := by
    intro key e _ held
    cases held
  have keepPaired (ct : Conntrack) (op : DualOp) (held : Paired maps.nat ct) (_ : True) :
    Paired maps.nat (dualStep maps.nat g.port ct op) := dualStep_paired held op
  have paired : Paired maps.nat ((ops.take n).foldl (dualStep maps.nat g.port) ∅) :=
    (any.take n).invariant keepPaired start
  have pinned := sends_pins sends own
  have next : (ops.take (i + 1)).foldl (dualStep maps.nat g.port) ∅
    = dualStep maps.nat g.port ((ops.take i).foldl (dualStep maps.nat g.port) ∅) op := by
    rw [List.take_add_one, here, List.foldl_append]
    rfl
  rw [<- next] at pinned
  have keep (ct : Conntrack) (op : DualOp) (held : PinnedIn family key p ct) (_ : True) :
    PinnedIn family key p (dualStep maps.nat g.port ct op) :=
    pinnedIn_keptAt (dualStep_keptAt maps.nat g.port ct op key) held
  exact returns_of_pinned g (sends_vni sends) mine given paired (any.persists keep later pinned)

def Maps.dual : Maps :=
  { natted with portMeta := fun tap => if tap = 9 then some natGuest.port else none }

def dualGuest : DualGuest dual where
  port := natGuest.port
  guest := ⟨9, 1, Vector.replicate 6 0, 0⟩
  binding := ⟨natAddr, 1024, 1025⟩
  ipv4 := by decide
  ipv6 := by decide
  bound := nattedFlow.bound
  registered := nattedFlow.registered
  home := rfl
  isLocal := nattedFlow.isLocal
  known := rfl

def dnsFrame6 : Pkt :=
  List.replicate 12 0 ++ [0x86, 0xdd] ++ [0x60, 0, 0, 0, 0, 8, 17, 64] ++ List.replicate 16 1 ++
    [0x00, 0x64, 0xff, 0x9b, 0, 0, 0, 0, 0, 0, 0, 0, 198, 51, 100, 1] ++ [0x13, 1, 0, 53, 0, 8, 0, 0]

-- The IPv4 flow sends twice, and a NAT64 flow of the same tuple after each of its frames.
def sharedTuple : List DualOp := [.v4 dnsFrame 0 0, .v6 dnsFrame6 1, .v4 dnsFrame 2 0, .v6 dnsFrame6 3]

theorem dns_flow_returns :
  (((sharedTuple.take 2).foldl (dualStep onePort natGuest.port) ∅).lookup (dnsFlow 0x1301)).isSome /\
    dualGuest.Returns .plain (dnsFlow 0x1301) 1024 (sharedTuple.foldl (dualStep onePort natGuest.port) ∅) := by
  refine ⟨by decide +kernel, dual_stack_returns dual dualGuest sharedTuple 2 4 (.v4 dnsFrame 2 0) (dnsFlow 0x1301) 1024
    .plain rfl (by decide) ?_ rfl ?_ (.inl (by decide))⟩
  · exact ⟨by decide, by decide, by decide, ⟨⟨natAddr, 1024, 1025⟩, Finmap.lookup_insert _, by decide⟩,
      by decide +kernel, by decide +kernel⟩
  · intro e held _
    have plain : (((sharedTuple.take 2).foldl (dualStep onePort natGuest.port) ∅).lookup (dnsFlow 0x1301)).all
      (fun e => e.flags &&& ctFNat64 == 0) = true := by decide +kernel
    rw [show ((sharedTuple.take 2).foldl (dualStep onePort natGuest.port) ∅).lookup (dnsFlow 0x1301) = some e from held] at plain
    simpa using plain

theorem equal_tuples_share_family :
  ¬ ∀ (maps : Maps) (g : DualGuest maps) (ops : List DualOp) (i n : Nat) (op : DualOp) (key : CtKey)
    (p : UInt16) (family : Family), ops[i]? = some op -> i < n ->
    op.Sends maps.nat g.port ((ops.take i).foldl (dualStep maps.nat g.port) ∅) key p family ->
    key.srcIp = g.port.guestIpv4 ->
    g.Returns family key p ((ops.take n).foldl (dualStep maps.nat g.port) ∅) := by
  intro claimed
  have sends : (DualOp.v6 dnsFrame6 1).Sends onePort natGuest.port
    (dualStep onePort natGuest.port ∅ (.v4 dnsFrame 0 0)) (dnsFlow 0x1301) 1024 .nat64 := by
    cases flow : nat64Flow dnsFrame6 onePort ethLen 5 guestAddr with
    | none => exact absurd flow (by decide +kernel)
    | some f =>
      have key : (nat64Flow dnsFrame6 onePort ethLen 5 guestAddr).map
        (fun f => f.key 5 guestAddr) = some (dnsFlow 0x1301) := by decide +kernel
      have port : (nat64EgressParse dnsFrame6 onePort
        (dualStep onePort natGuest.port ∅ (.v4 dnsFrame 0 0)) ethLen 5 guestAddr 1).1.map
        (fun x => x.natPort) = some 1024 := by decide +kernel
      rw [flow] at key
      obtain ⟨x, parsed, chosen⟩ := map_eq_some_iff.mp port
      exact ⟨f, x, flow, some.inj key, parsed, chosen⟩
  have returned := claimed dual dualGuest [.v4 dnsFrame 0 0, .v6 dnsFrame6 1] 1 2 (.v6 dnsFrame6 1)
    (dnsFlow 0x1301) 1024 .nat64 rfl (by decide) sends rfl
  obtain ⟨_, hdr, sport, reply, natIp⟩ := dnsAnswer_reply
  have first : hdr[0] = 0x45 :=
    mem_unique (readArray_byte dnsAnswer ethLen reply.header 0 (by decide)) (by decide)
  have total : wordAt hdr 2 = 28 := mem_unique (readU16Be_window reply.header 2 (by decide)) (by decide)
  let inp : UplinkIn := ⟨5, ⟨1, Vector.replicate 6 0, Octets.zero 16⟩, 2⟩
  have expanded := (returned ⟨_, ∅, ∅, ∅⟩ (FwPolicies.open.steady 0) dnsAnswer hdr sport inp rfl rfl reply natIp
    (by rw [ihl, first]; decide) (by rw [total]; decide) (by decide +kernel)).2.1
  have plain : (processUplinkRx dual (FwPolicies.open.steady 0)
    ⟨[DualOp.v4 dnsFrame 0 0, .v6 dnsFrame6 1].foldl (dualStep onePort natGuest.port) ∅, ∅, ∅, ∅⟩
    dnsAnswer inp).2.1.readU16Be 12 = some ethPIp := by decide +kernel
  exact absurd (expanded.symm.trans plain) (by decide)

end Ectobase.Flowplane
