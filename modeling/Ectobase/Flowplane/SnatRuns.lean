import Ectobase.Flowplane.Snat
import Ectobase.Shared.Runs
import Ectobase.Shared.SlotTable

namespace Ectobase.Flowplane

open Shared Option

def CtEntry.isForward (e : CtEntry) : Bool :=
  e.flags &&& ctRewriteSrc != 0 && e.flags &&& ctFSrcNat != 0

def natSlot (k : CtKey) (e : CtEntry) : Option CtKey :=
  if e.isForward then some (revKey k.vni e.xlateIp e.xlatePort k.proto) else none

-- The flag keeps the allocator from overwriting b.
def Returns (k : CtKey) (_ : CtEntry) (b : CtEntry) : Prop :=
  b.flags &&& ctFSrcNat ≠ 0 /\ b.xlateIp = k.srcIp /\ b.xlatePort = k.srcPort

structure PortsExclusive (ct : Conntrack) : Prop where
  unique : ∀ k1 k2 e1 e2, ct.lookup k1 = some e1 -> ct.lookup k2 = some e2 ->
    e1.isForward = true -> e2.isForward = true -> k1.vni = k2.vni -> k1.proto = k2.proto ->
    e1.xlateIp = e2.xlateIp -> e1.xlatePort = e2.xlatePort -> k1 = k2
  reversed : ∀ k e, ct.lookup k = some e -> e.isForward = true ->
    ∃ b, ct.lookup (revKey k.vni e.xlateIp e.xlatePort k.proto) = some b /\
      b.xlateIp = k.srcIp /\ b.xlatePort = k.srcPort

variable {k : CtKey} {nat : NatValue} {pkt : Pkt}

lemma natSlot_forward {e : CtEntry} (forward : e.isForward = true) :
  natSlot k e = some (revKey k.vni e.xlateIp e.xlatePort k.proto) := by
  rw [natSlot, if_pos forward]

variable {ct : Conntrack} {key : CtKey}

lemma portsExclusive_of_leased (leased : Leased natSlot Returns ct) : PortsExclusive ct := by
  constructor
  · intro k1 k2 e1 e2 held1 held2 forward1 forward2 vni proto ip port
    have same : natSlot k2 e2 = natSlot k1 e1 := by
      rw [natSlot_forward forward1, natSlot_forward forward2, vni, proto, ip, port]
    exact leased.exclusive held1 (natSlot_forward forward1) held2 (same.trans (natSlot_forward forward1))
  · intro k e held forward
    obtain ⟨b, present, _, names⟩ := leased.backed held (natSlot_forward forward)
    exact ⟨b, present, names⟩

lemma srcIp_of_isSlot (taken : IsSlot natSlot ct k) : k.srcIp = Vector.replicate 4 0 := by
  obtain ⟨k', e', _, _, leases⟩ := taken
  unfold natSlot at leases
  split at leases
  · cases leases; rfl
  · cases leases

lemma probe_free {vni : UInt32} {proto : UInt8} {start range port : UInt16} {left : Nat}
  {i : UInt16} (found : probe ct vni nat proto start range left i = some port) :
  ct.lookup (revKey vni nat.natIpv4 port proto) = none /\ ∃ place, port = nat.portMin + place % range := by
  induction left generalizing i with
  | zero => simp [probe] at found
  | succ left ih =>
    simp only [probe] at found
    split at found
    next absent =>
      cases found
      exact ⟨absent, _, rfl⟩
    · exact ih found

def allocateBy (rev : CtEntry) (fwd : UInt16 -> CtEntry) (ct : Conntrack) (nat : NatValue) (key : CtKey)
  (range : UInt16) : Option (UInt16 × Conntrack) :=
  let fresh : Option (UInt16 × Conntrack) :=
    let start := (hash5 key.srcIp key.dstIp key.srcPort key.dstPort key.proto % range.toUInt32).toUInt16
    (probe ct key.vni nat key.proto start range probeLimit 0).map fun chosen =>
      (chosen, (ct.insert (revKey key.vni nat.natIpv4 chosen key.proto) rev).insert key (fwd chosen))
  match ct.lookup key with
  | some v => if v.flags &&& ctFSrcNat ≠ 0 then some (v.xlatePort, ct) else fresh
  | none => fresh

section

variable {rev : CtEntry} {fwd : UInt16 -> CtEntry} {ct ct' : Conntrack} {nat : NatValue} {key : CtKey}
  {range port : UInt16} (allocated : allocateBy rev fwd ct nat key range = some (port, ct'))

include allocated

lemma allocateBy_cases : (∃ v, ct.lookup key = some v /\ v.flags &&& ctFSrcNat ≠ 0 /\ port = v.xlatePort /\ ct' = ct) \/
    (∀ v, ct.lookup key = some v -> v.flags &&& ctFSrcNat = 0) /\
      (ct.lookup (revKey key.vni nat.natIpv4 port key.proto) = none /\ ∃ place, port = nat.portMin + place % range) /\
      ct' = (ct.insert (revKey key.vni nat.natIpv4 port key.proto) rev).insert key (fwd port) := by
  by_cases tracked : ∃ v, ct.lookup key = some v /\ v.flags &&& ctFSrcNat ≠ 0
  · obtain ⟨v, held, tracked⟩ := tracked
    simp only [allocateBy, held, if_pos tracked] at allocated
    cases allocated
    exact .inl ⟨v, held, tracked, rfl, rfl⟩
  · have untracked : ∀ v, ct.lookup key = some v -> v.flags &&& ctFSrcNat = 0 := by simpa using tracked
    refine .inr ⟨untracked, ?_⟩
    unfold allocateBy at allocated
    split at allocated
    on_goal 1 => rw [if_neg (not_not.mpr (untracked _ ‹_›))] at allocated
    all_goals
      obtain ⟨chosen, probed, same⟩ := map_eq_some_iff.mp allocated
      cases same
      exact ⟨probe_free probed, rfl⟩

lemma allocateBy_pins (pins : ∀ p, (fwd p).flags &&& ctFSrcNat ≠ 0 /\ (fwd p).xlatePort = p) :
  ∃ e, ct'.lookup key = some e /\ e.flags &&& ctFSrcNat ≠ 0 /\ e.xlatePort = port := by
  rcases allocateBy_cases allocated with ⟨v, held, tracked, rfl, rfl⟩ | ⟨_, _, rfl⟩
  · exact ⟨v, held, tracked, rfl⟩
  · exact ⟨_, Finmap.lookup_insert _, pins port⟩

end

lemma not_isSlot_of_untranslated (leased : Leased natSlot Returns ct)
  (untranslated : ∀ v, ct.lookup k = some v -> v.flags &&& ctFSrcNat = 0) :
  ¬ IsSlot natSlot ct k := by
  rintro ⟨k', e', _, held, leases⟩
  obtain ⟨b, present, flagged, _⟩ := leased.backed held leases
  exact flagged (untranslated b present)

lemma revEntry_isForward (key : CtKey) (now : UInt64) : (revEntry key now).isForward = false := by
  simp only [CtEntry.isForward, revEntry]
  decide

lemma fwdEntry_isForward (nat : NatValue) (chosen : UInt16) (now : UInt64) (epoch : UInt32) :
  (fwdEntry nat chosen now epoch).isForward = true := by
  simp only [CtEntry.isForward, fwdEntry]
  decide

lemma fresh_leased (leased : Leased natSlot Returns ct) {chosen : UInt16} (now : UInt64)
  (epoch : UInt32) (untranslated : ∀ v, ct.lookup key = some v -> v.flags &&& ctFSrcNat = 0)
  (free : ct.lookup (revKey key.vni nat.natIpv4 chosen key.proto) = none)
  (apart : revKey key.vni nat.natIpv4 chosen key.proto ≠ key) :
  Leased natSlot Returns ((ct.insert (revKey key.vni nat.natIpv4 chosen key.proto)
    (revEntry key now)).insert key (fwdEntry nat chosen now epoch)) := by
  have plain (k : CtKey) : natSlot k (revEntry key now) = none := by
    rw [natSlot, revEntry_isForward, if_neg Bool.false_ne_true]
  have leases : natSlot key (fwdEntry nat chosen now epoch) = some (revKey key.vni nat.natIpv4 chosen key.proto) :=
    natSlot_forward (fwdEntry_isForward nat chosen now epoch)
  have back : Returns key (fwdEntry nat chosen now epoch) (revEntry key now) :=
    ⟨by simp only [revEntry]; decide, rfl, rfl⟩
  exact leased.reserve (not_isSlot_of_untranslated leased untranslated) free (plain _) leases back apart

lemma allocate_leased {ct' : Conntrack} (leased : Leased natSlot Returns ct) {range port : UInt16}
  {now : UInt64} {epoch : UInt32}
  (apart : ∀ chosen, revKey key.vni nat.natIpv4 chosen key.proto ≠ key)
  (allocated : allocate ct nat key range now epoch = some (port, ct')) :
  Leased natSlot Returns ct' := by
  rcases allocateBy_cases allocated with ⟨_, _, _, _, rfl⟩ | ⟨untranslated, ⟨free, _⟩, rfl⟩
  · exact leased
  · exact fresh_leased leased now epoch untranslated free (apart port)

lemma readArray_within {n off : Nat} {bytes : Vector UInt8 n}
  (read : pkt.readArray n off = some bytes) (m at_ : Nat) (inside : at_ + m <= n) :
  pkt.readArray m (off + at_) = some (Vector.ofFn fun i : Fin m => bytes[at_ + i.val]) := by
  unfold Pkt.readArray at read ⊢
  split at read
  next bound =>
    cases read
    rw [dif_pos (by omega)]
    simp only [Vector.getElem_ofFn, Nat.add_assoc]
  · cases read

lemma ctKey_of_header {ipOff : Nat} {hdr : Vector UInt8 20} {proto : UInt8} {sport dport : UInt16}
  (header : pkt.readArray 20 ipOff = some hdr)
  (ports : l4Ports pkt ipOff = some (proto, sport, dport)) (vni : UInt32) :
  ctKey pkt ipOff vni = some ⟨vni, srcAddr hdr, dstAddr hdr, sport, dport, proto⟩ := by
  have src := readArray_within header 4 12 (by omega)
  have dst := readArray_within header 4 16 (by omega)
  rw [ctKey, src, dst, ports]
  rfl

lemma ctKey_vni {ipOff : Nat} {vni : UInt32} (keyed : ctKey pkt ipOff vni = some key) : key.vni = vni := by
  simp only [ctKey, bind_eq_bind, bind_eq_some_iff] at keyed
  obtain ⟨src, _, dst, _, same⟩ := keyed
  cases same
  rfl

lemma ctRefresh_leased (leased : Leased natSlot Returns ct) {e : CtEntry}
  (held : ct.lookup key = some e) (pkt : Pkt) (ipOff : Nat) (now : UInt64) (epoch : UInt32) :
  Leased natSlot Returns (ctRefresh ct pkt ipOff key e now epoch) :=
  leased.rewrite held rfl (fun _ back => back) (fun _ _ back => back)

lemma defaultEntry_natSlot (key : CtKey) (pkt : Pkt) (ipOff : Nat) (now : UInt64)
  (epoch : UInt32) (flags : UInt8) (plain : flags &&& ctRewriteSrc = 0) :
  natSlot key { defaultEntry pkt ipOff now epoch with flags } = none := by
  simp [natSlot, CtEntry.isForward, plain]

lemma snatEgress_conntrack (pkt : Pkt) (nat : NatConfig) (ct : Conntrack) (ipOff : Nat)
  (vni : UInt32) (isExternal : Bool) (now : UInt64) (epoch : UInt32) :
  (snatEgress pkt nat ct ipOff vni isExternal now epoch).2.2 = ct \/
    ∃ key binding port ct', ctKey pkt ipOff vni = some key /\ nat.lookup ⟨vni, key.srcIp⟩ = some binding /\
      allocate ct binding key (binding.portMax - binding.portMin) now epoch = some (port, ct') /\
      (snatEgress pkt nat ct ipOff vni isExternal now epoch).2.2 = ct' := by
  unfold snatEgress
  split
  · exact .inl rfl
  · split
    · exact .inl rfl
    next hdr header =>
      dsimp only
      split
      · exact .inl rfl
      next binding bound =>
        split
        · exact .inl rfl
        · split
          · exact .inl rfl
          next proto sport dport ports =>
            split
            · exact .inl rfl
            next natPort ct' allocated =>
              exact .inr ⟨_, binding, natPort, ct', ctKey_of_header header ports vni, bound, allocated, rfl⟩

lemma trackFlow_leased (leased : Leased natSlot Returns ct) (pkt : Pkt) (ipOff : Nat)
  (vni : UInt32) (now : UInt64) (epoch : UInt32) :
  Leased natSlot Returns (trackFlow ct pkt ipOff vni now epoch) := by
  unfold trackFlow
  split
  · exact leased
  next key keyed =>
    split
    next missing =>
      rw [ctCreateDefault, keyed]
      have created := leased.insert_plain (leased.not_isSlot_of_absent missing)
        (defaultEntry_natSlot key pkt ipOff now epoch ctFDefault rfl)
      dsimp only
      split
      next absent =>
        exact created.insert_plain (created.not_isSlot_of_absent absent)
          (defaultEntry_natSlot _ pkt ipOff now epoch (ctFDefault ||| ctFReply) rfl)
      · exact created
    next e held => exact ctRefresh_leased leased held pkt ipOff now epoch

lemma touch_leased (leased : Leased natSlot Returns ct) (pkt : Pkt) (ipOff : Nat) (key : CtKey)
  (now : UInt64) (epoch : UInt32) :
  Leased natSlot Returns (touch ct pkt ipOff key now epoch) := by
  unfold touch
  split
  · exact leased
  next e held => exact ctRefresh_leased leased held pkt ipOff now epoch

inductive CtOp where
  | egress (pkt : Pkt) (ipOff : Nat) (vni : UInt32) (isExternal : Bool) (now : UInt64)
      (epoch : UInt32)
  | track (pkt : Pkt) (ipOff : Nat) (vni : UInt32) (now : UInt64) (epoch : UInt32)
  | touch (pkt : Pkt) (ipOff : Nat) (key : CtKey) (now : UInt64) (epoch : UInt32)
  | sweep (key : CtKey) (now : UInt64)

def CtOp.now : CtOp -> UInt64
  | .egress _ _ _ _ now _ | .track _ _ _ now _ | .touch _ _ _ now _ | .sweep _ now => now

def Conntrack.step (nat : NatConfig) (ct : Conntrack) : CtOp -> Conntrack
  | .egress pkt ipOff vni isExternal now epoch =>
    (snatEgress pkt nat ct ipOff vni isExternal now epoch).2.2
  | .track pkt ipOff vni now epoch => trackFlow ct pkt ipOff vni now epoch
  | .touch pkt ipOff key now epoch => Ectobase.Flowplane.touch ct pkt ipOff key now epoch
  | .sweep key now => sweepEntry ct key now

-- The collector takes no reverse entry away from a forward entry that is still there.
def CtOp.Orderly (nat : NatConfig) (ct : Conntrack) : CtOp -> Prop
  | .egress pkt ipOff vni _ _ _ => ∀ key binding, ctKey pkt ipOff vni = some key ->
      nat.lookup ⟨vni, key.srcIp⟩ = some binding ->
      key ≠ revKey vni binding.natIpv4 key.dstPort key.proto
  | .track .. | .touch .. => True
  | .sweep key now => ∀ e, ct.lookup key = some e -> ctIsExpired e now = true -> ¬ IsSlot natSlot ct key

lemma step_leased (nat : NatConfig) (ct : Conntrack) (op : CtOp)
  (leased : Leased natSlot Returns ct) (orderly : op.Orderly nat ct) :
  Leased natSlot Returns (Conntrack.step nat ct op) := by
  cases op with
  | egress pkt ipOff vni isExternal now epoch =>
    rcases snatEgress_conntrack pkt nat ct ipOff vni isExternal now epoch with
      same | ⟨key, binding, port, ct', keyed, bound, allocated, after⟩
    · rw [Conntrack.step, same]
      exact leased
    · rw [Conntrack.step, after]
      have ofVni : key.vni = vni := ctKey_vni keyed
      apply allocate_leased leased _ allocated
      intro chosen same
      -- the reverse key could only be the flow's own key at the port the flow is sent to
      have dport : chosen = key.dstPort := congrArg CtKey.dstPort same
      rw [dport, ofVni] at same
      exact orderly key binding keyed bound same.symm
  | track pkt ipOff vni now epoch => exact trackFlow_leased leased pkt ipOff vni now epoch
  | touch pkt ipOff key now epoch => exact touch_leased leased pkt ipOff key now epoch
  | sweep key now =>
    rw [Conntrack.step, sweepEntry]
    split
    · exact leased
    next e held =>
      split
      next expired => exact leased.erase (orderly e held expired)
      · exact leased

lemma sweep_unbacks {nat : NatConfig} {now : UInt64} (disorderly : ¬ (CtOp.sweep key now).Orderly nat ct) :
  ¬ PortsExclusive (Conntrack.step nat ct (.sweep key now)) := by
  simp only [CtOp.Orderly, not_forall, not_not] at disorderly
  obtain ⟨e, held, expired, k, f, other, live, leases⟩ := disorderly
  intro exclusive
  rw [Conntrack.step, sweepEntry, held] at exclusive
  simp only [expired, if_true] at exclusive
  have forward : f.isForward = true := by
    by_contra plain
    rw [natSlot, if_neg plain] at leases
    cases leases
  rw [natSlot_forward forward] at leases
  cases leases
  have kept := lookup_erase_ite (revKey k.vni f.xlateIp f.xlatePort k.proto) k ct
  rw [if_neg other, live] at kept
  obtain ⟨b, present, _⟩ := exclusive.reversed k f kept forward
  rw [lookup_erase_ite, if_pos rfl] at present
  cases present

theorem snat_ports_exclusive (nat : NatConfig) (ops : List CtOp)
  (orderly : Along (Conntrack.step nat) (CtOp.Orderly nat) ∅ ops) (n : Nat) :
  PortsExclusive ((ops.take n).foldl (Conntrack.step nat) ∅) /\ ∀ key now, PortsExclusive
        (Conntrack.step nat ((ops.take n).foldl (Conntrack.step nat) ∅) (.sweep key now)) ↔
      (CtOp.sweep key now).Orderly nat ((ops.take n).foldl (Conntrack.step nat) ∅) := by
  have leased : Leased natSlot Returns ((ops.take n).foldl (Conntrack.step nat) ∅) :=
    (orderly.take n).invariant (step_leased nat) leased_empty
  refine ⟨portsExclusive_of_leased leased, fun key now => ⟨?_, ?_⟩⟩
  · intro exclusive
    by_contra disorderly
    exact sweep_unbacks disorderly exclusive
  · intro keeps
    exact portsExclusive_of_leased (step_leased nat _ _ leased keeps)

def DisjointRanges (nat : NatConfig) : Prop :=
  ∀ k1 k2 v1 v2, nat.lookup k1 = some v1 -> nat.lookup k2 = some v2 -> k1 ≠ k2 ->
    v1.natIpv4 = v2.natIpv4 -> v1.portMax <= v2.portMin \/ v2.portMax <= v1.portMin

def dnsQuery (sport : UInt8) : Pkt :=
  [0x45, 0, 0, 28, 0, 0, 0, 0, 64, 17, 0, 0, 10, 0, 0, 1, 198, 51, 100, 1, 0x13, sport, 0, 53, 0, 8, 0, 0]

abbrev guestAddr : Vector UInt8 4 := #v[10, 0, 0, 1]
abbrev dnsAddr : Vector UInt8 4 := #v[198, 51, 100, 1]
abbrev natAddr : Vector UInt8 4 := #v[203, 0, 113, 1]

def dnsFlow (sport : UInt16) : CtKey := ⟨5, guestAddr, dnsAddr, sport, 53, 17⟩

def onePort : NatConfig := (∅ : NatConfig).insert ⟨5, guestAddr⟩ ⟨natAddr, 1024, 1025⟩

lemma onePort_disjoint : DisjointRanges onePort := by
  intro k1 k2 v1 v2 held1 held2 differ
  simp only [onePort, lookup_insert_ite, Finmap.lookup_empty] at held1 held2
  split at held1 <;> split at held2 <;> simp_all

-- It hears nothing back: its reverse entry goes at 31 s, and the next flow takes the port.
def silentPeer : List CtOp :=
  [.egress (dnsQuery 1) 0 5 true 0 0, .touch (dnsQuery 1) 0 (dnsFlow 0x1301) 20000000000 0,
    .sweep (revKey 5 natAddr 1024 17) 31000000000,
    .egress (dnsQuery 2) 0 5 true 31000000000 0]

theorem snat_port_shared_after_sweep : ¬ ∀ (nat : NatConfig) (ops : List CtOp), DisjointRanges nat ->
    (ops.map CtOp.now).Pairwise (· <= ·) ->
    PortsExclusive (ops.foldl (Conntrack.step nat) ∅) := by
  intro claimed
  have exclusive := claimed onePort silentPeer onePort_disjoint (by decide)
  have shared : dnsFlow 0x1301 = dnsFlow 0x1302 := exclusive.unique (dnsFlow 0x1301) (dnsFlow 0x1302)
    ⟨20000000000, natAddr, 1024, 5, 0, 0, 0⟩
    ⟨31000000000, natAddr, 1024, 5, 0, 0, 0⟩
    (by decide +kernel) (by decide +kernel) rfl rfl rfl rfl rfl rfl
  exact absurd shared (by decide)

abbrev neighbourAddr : Vector UInt8 4 := #v[10, 0, 0, 6]

def neighbourFlow : CtKey := { dnsFlow 0x1302 with srcIp := neighbourAddr }

def neighbourQuery : Pkt := (dnsQuery 2).set 15 6

-- Two guests with one port of the NAT address each; the first falls silent and loses its forward
-- entry, the second keeps sending.
def twoGuests : NatConfig := onePort.insert ⟨5, neighbourAddr⟩ ⟨natAddr, 1025, 1026⟩

def twoFlows : List CtOp :=
  [.egress (dnsQuery 1) 0 5 true 0 0, .egress neighbourQuery 0 5 true 0 0,
    .touch (dnsQuery 1) 0 (revKey 5 natAddr 1024 17) 20000000000 0,
    .touch neighbourQuery 0 neighbourFlow 20000000000 0, .sweep (dnsFlow 0x1301) 31000000000,
    .sweep neighbourFlow 31000000000]

lemma egress_orderly {nat : NatConfig} {ct : Conntrack} {pkt : Pkt} (src : Vector UInt8 4)
  (keyed : (ctKey pkt 0 5).map (·.srcIp) = some src) (sent : src ≠ Vector.replicate 4 0) :
  (CtOp.egress pkt 0 5 true 0 0).Orderly nat ct := by
  intro key binding found _ same
  rw [found] at keyed
  exact sent ((some.inj keyed).symm.trans (congrArg CtKey.srcIp same))

lemma sweep_orderly {nat : NatConfig} {ct : Conntrack} {key : CtKey} {now : UInt64}
  (sent : key.srcIp ≠ Vector.replicate 4 0) : (CtOp.sweep key now).Orderly nat ct :=
  fun _ _ _ taken => sent (srcIp_of_isSlot taken)

theorem answered_flow_exclusive : let final := twoFlows.foldl (Conntrack.step twoGuests) ∅
  Along (Conntrack.step twoGuests) (CtOp.Orderly twoGuests) ∅ twoFlows /\ PortsExclusive final /\
    final.lookup (dnsFlow 0x1301) = none /\
    (final.lookup neighbourFlow).map (fun e => (e.isForward, e.xlatePort)) = some (true, 1025) := by
  intro final
  have orderly : Along (Conntrack.step twoGuests) (CtOp.Orderly twoGuests) ∅ twoFlows :=
    ⟨egress_orderly guestAddr (by decide +kernel) (by decide),
      egress_orderly neighbourAddr (by decide +kernel) (by decide), trivial, trivial,
      sweep_orderly (by decide), sweep_orderly (by decide), trivial⟩
  exact ⟨orderly, (snat_ports_exclusive twoGuests twoFlows orderly 6).1, by decide +kernel, by decide +kernel⟩

end Ectobase.Flowplane
