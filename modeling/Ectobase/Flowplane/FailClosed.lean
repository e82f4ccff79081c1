import Ectobase.Flowplane.DualStack

namespace Ectobase.Flowplane

open Shared

def ToTap (out : UplinkOut) (tap : UInt32) : Prop :=
  out.tunnel = none /\ (out.action = .redirect tap \/ out.action = .redirectPeer tap)

def ToStack (out : UplinkOut) : Prop := out.action = .pass \/ out.action = .passToStack

def LocalTap (iface : Option IfaceValue) (tap : UInt32) : Prop :=
  ∃ iv, iface = some iv /\ iv.isLocal ≠ 0 /\ iv.tapIfindex = tap

-- The node's own underlay maps to the local-deliver sentinel.
def WanEdge (maps : Maps) (node : Local) : Prop :=
  ∃ u, maps.underlay node.underlayIpv6 = some u /\ u.tapIfindex = underlayLocalDeliver

def Cleared (verdict : UInt8) (hit : Option CtEntry) (epoch : UInt32) : Prop :=
  verdict = fwActionAccept \/ ∃ e, hit = some e /\ (e.flags &&& (ctFReply ||| ctRewriteDst) ≠ 0 \/ e.policyEpoch = epoch)

def Cleared4 (fw : FwReads) (ct : Conntrack) (pkt : Pkt) (vni tap : UInt32) : Prop :=
  Cleared (fwClassify pkt fw.first.v4 ethLen tap fwDirIngress) ((ctKey pkt ethLen vni).bind fun key => ct.lookup key) fw.epoch

def Cleared6 (fw : FwReads) (ct : Conntrack6) (pkt : Pkt) (vni tap : UInt32) : Prop :=
  Cleared (fwClassify6 pkt fw.first.v6 ethLen tap fwDirIngress)
    ((ctKey6 pkt ethLen vni).bind fun key => ct.lookup key) fw.epoch

-- The inner destination after a floating address has been translated, and the packet that has it.
def finalDestination (maps : Maps) (vni : UInt32) (pkt : Pkt) : Option (Vector UInt8 4 × Pkt) :=
  (pkt.readArray 4 (ethLen + 16)).map fun dst =>
    match maps.floatingIp vni dst with
    | some g => (g, floatingIpDnatRewrite pkt ethLen dst g)
    | none => (dst, pkt)

inductive Justified (maps : Maps) (fw : FwReads) (s : Flows) (pkt : Pkt) (inp : UplinkIn)
  (tap : UInt32) : Prop where
  | backend (be : LbBackend)
      (chosen : (lbSelectForwardIcmpError pkt maps ethLen inp.vni).or
        (lbSelectForward pkt maps ethLen inp.vni) = some be)
      (here : be.nodeVtep = inp.node.underlayIpv6)
      (home : LocalTap (maps.ifaces be.vni (addrAt be.overlayIp 0)) tap)
      (cleared : (lbSelectForwardIcmpError pkt maps ethLen inp.vni).isSome \/
        Cleared4 fw s.conntrack pkt inp.vni tap)
  | destination (dst : Vector UInt8 4) (p : Pkt) (final : finalDestination maps inp.vni pkt = some (dst, p))
      (home : LocalTap (maps.ifaces inp.vni dst) tap) (cleared : Cleared4 fw s.conntrack p inp.vni tap)
  | natReturn (key : CtKey) (e : CtEntry)
      (entry : natReturnEntry maps s.conntrack pkt inp.vni = some (key, e))
      (home : LocalTap (maps.ifaces inp.vni e.xlateIp) tap)

-- p is the packet with a NAT66 return's address restored.
inductive Justified6 (maps : Maps) (fw : FwReads) (s : Flows) (p : Pkt) (isNatReturn : Bool)
  (inp : UplinkIn) (tap : UInt32) : Prop where
  | backend (be : LbBackend)
      (chosen : (lbSelectForwardIcmpErrorV6 p maps ethLen inp.vni).or
        (lbSelectForwardV6 p maps ethLen inp.vni) = some be)
      (here : be.nodeVtep = inp.node.underlayIpv6)
      (home : LocalTap (maps.ifaces6 be.vni be.overlayIp) tap)
      (cleared : isNatReturn = true \/ (lbSelectForwardIcmpErrorV6 p maps ethLen inp.vni).isSome \/
        Cleared6 fw s.conntrack6 p inp.vni tap)
  | destination (dst : Vector UInt8 16) (final : p.readArray 16 (ethLen + 24) = some dst)
      (home : LocalTap (maps.ifaces6 inp.vni dst) tap)
      (cleared : isNatReturn = true \/ Cleared6 fw s.conntrack6 p inp.vni tap)

def Unexpandable (maps : Maps) (ct : Conntrack) (pkt : Pkt) (inp : UplinkIn) : Prop :=
  ∃ key e iv hdr, natReturnEntry maps ct pkt inp.vni = some (key, e) /\ e.flags &&& ctFNat64 ≠ 0 /\
    maps.ifaces inp.vni e.xlateIp = some iv /\ iv.isLocal ≠ 0 /\
    pkt.readArray 20 ethLen = some hdr /\ ihl hdr = 5 /\
    nat64IngressParse pkt ethLen (resolveNat64GuestIpv6 maps iv.tapIfindex) iv.guestMac e.xlatePort = none

def UplinkRoute.Sound (edge : Prop) (home : UInt32 -> Prop) : UplinkRoute -> Prop
  | .tap t _ _ _ => home t
  | .edge => edge
  | .relay _ | .drop => True

variable {route : UplinkRoute} {epoch : UInt32}

lemma UplinkRoute.Sound.mono {edge : Prop} {home home' : UInt32 -> Prop}
  (sound : route.Sound edge home) (wider : ∀ tap, home tap -> home' tap)
  : route.Sound edge home' := by
  cases route with
  | tap tap mac isLb peerCapable => exact wider tap sound
  | edge => exact sound
  | relay | drop => trivial

section

variable (maps : Maps) (iface : Option IfaceValue) (node : Local)

lemma uplinkTarget_cases : uplinkTarget maps iface node = .drop \/
    (uplinkTarget maps iface node = .edgeLocalDeliver /\ WanEdge maps node) \/
    ∃ iv, iface = some iv /\ iv.isLocal ≠ 0 /\
      uplinkTarget maps iface node = .tap iv.tapIfindex iv.guestMac (iv.peerCapable != 0) := by
  unfold uplinkTarget
  split
  next iv found =>
    obtain ⟨held, isLocal⟩ := Option.filter_eq_some_iff.mp found
    exact .inr (.inr ⟨iv, held, bne_iff_ne.mp isLocal, rfl⟩)
  · split
    next sentinel =>
      obtain ⟨u, held, same⟩ := (Option.any_eq_true _ _).mp sentinel
      exact .inr (.inl ⟨rfl, u, held, beq_iff_eq.mp same⟩)
    · exact .inl rfl

lemma targetRoute_sound : (uplinkTarget maps iface node).route.Sound (WanEdge maps node) (LocalTap iface) := by
  rcases uplinkTarget_cases maps iface node with target | ⟨target, edge⟩ | ⟨iv, held, isLocal, target⟩
  · rw [target]
    trivial
  · rw [target]
    exact edge
  · rw [target]
    exact ⟨iv, held, isLocal, rfl⟩

lemma lbRoute_sound (be : LbBackend) : (lbRoute be iface node).Sound (WanEdge maps node)
    fun tap => be.nodeVtep = node.underlayIpv6 /\ LocalTap iface tap := by
  unfold lbRoute
  split
  next here =>
    split
    next iv found =>
      obtain ⟨held, isLocal⟩ := Option.filter_eq_some_iff.mp found
      exact ⟨here, iv, held, bne_iff_ne.mp isLocal, rfl⟩
    · trivial
  · trivial

end

variable {e : CtEntry} {stack : Prop}

section

variable {maps : Maps} {fw : FwReads} {s : Flows} {pkt p : Pkt} {inp : UplinkIn} {tap : UInt32} {peerCapable : Bool}

lemma baseRoute_sound : (baseRoute maps pkt inp).1.Sound (WanEdge maps inp.node) fun tap =>
    ∃ dst, finalDestination maps inp.vni pkt = some (dst, (baseRoute maps pkt inp).2) /\
      LocalTap (maps.ifaces inp.vni dst) tap := by
  unfold baseRoute
  split
  · trivial
  next dst read =>
    split
    next g floating =>
      refine (targetRoute_sound _ _ _).mono fun tap home => ⟨g, ?_, home⟩
      simp [finalDestination, read, floating]
    next plain =>
      split
      · trivial
      · refine (targetRoute_sound _ _ _).mono fun tap home => ⟨dst, ?_, home⟩
        simp [finalDestination, read, plain]

lemma baseRoute6_sound : (baseRoute6 maps pkt inp).Sound (WanEdge maps inp.node) fun tap =>
    ∃ dst, pkt.readArray 16 (ethLen + 24) = some dst /\ LocalTap (maps.ifaces6 inp.vni dst) tap := by
  unfold baseRoute6
  split
  · trivial
  next dst read =>
    split
    · trivial
    · exact (targetRoute_sound _ _ _).mono fun tap home => ⟨dst, read, home⟩

lemma uplinkRoute_sound (fw : FwReads) (s : Flows) {relayed : Bool}
  (routed : uplinkRoute maps pkt inp = (relayed, route, p)) :
  route.Sound (WanEdge maps inp.node) fun tap =>
    (relayed = true \/ Cleared4 fw s.conntrack p inp.vni tap) -> Justified maps fw s pkt inp tap := by
  unfold uplinkRoute at routed
  dsimp only at routed
  split at routed
  next be chosen =>
    cases routed
    exact (lbRoute_sound maps _ _ be).mono fun tap home => .backend be chosen home.1 home.2
  · obtain ⟨rfl, same⟩ := Prod.mk.inj routed
    have sound : (baseRoute maps pkt inp).1.Sound _ _ := baseRoute_sound
    rw [same] at sound
    refine sound.mono fun tap home cleared => ?_
    obtain ⟨dst, final, home⟩ := home
    exact .destination dst _ final home (cleared.resolve_left nofun)

lemma uplinkRoute6_sound (fw : FwReads) (s : Flows) (isNatReturn : Bool) {relayed : Bool}
  (routed : uplinkRoute6 maps p inp = (relayed, route)) :
  route.Sound (WanEdge maps inp.node) fun tap =>
    ((isNatReturn || relayed) = true \/ Cleared6 fw s.conntrack6 p inp.vni tap) ->
      Justified6 maps fw s p isNatReturn inp tap := by
  simp only [Bool.or_eq_true, or_assoc]
  unfold uplinkRoute6 at routed
  dsimp only at routed
  split at routed
  next be chosen =>
    cases routed
    exact (lbRoute_sound maps _ _ be).mono fun tap home => .backend be chosen home.1 home.2
  · cases routed
    refine baseRoute6_sound.mono fun tap home cleared => ?_
    obtain ⟨dst, final, home⟩ := home
    exact .destination dst final home (cleared.imp_right fun rest => rest.resolve_left nofun)

lemma settled_of_hit {flags : Option UInt8} (settled : ctNeedsRecheck e epoch flags = false) :
  e.flags &&& (ctFReply ||| ctRewriteDst) ≠ 0 \/ e.policyEpoch = epoch := by
  simp only [ctNeedsRecheck, Bool.or_eq_false_iff, Bool.and_eq_false_iff, Bool.not_eq_false',
    bne_iff_ne, bne_eq_false_iff_eq] at settled
  exact settled.2

lemma cleared4_of_admitted {ct : Conntrack}
  (admitted : uplinkIngressFirewall fw s.conntrack p ethLen inp.vni tap = (some epoch, ct)) :
  Cleared4 fw s.conntrack p inp.vni tap := by
  rcases uplinkIngressFirewall_cases fw s.conntrack p inp.vni tap with
    ⟨_, dropped⟩ | ⟨key, keyed, ⟨_, _, dropped⟩ | ⟨accepted, _⟩ | ⟨e, held, settled, _⟩⟩
  · simp [dropped] at admitted
  · simp [dropped] at admitted
  · exact .inl accepted
  · exact .inr ⟨e, by rw [keyed]; exact held, settled_of_hit settled⟩

lemma cleared6_of_admitted {ct : Conntrack6}
  (admitted : uplinkIngressFirewall6 fw s.conntrack6 p ethLen inp.vni tap = (some epoch, ct)) :
  Cleared6 fw s.conntrack6 p inp.vni tap := by
  rcases uplinkIngressFirewall6_cases fw s.conntrack6 p inp.vni tap with
    ⟨_, dropped⟩ | ⟨key, keyed, ⟨_, _, dropped⟩ | ⟨accepted, _⟩ | ⟨e, held, settled, _⟩⟩
  · simp [dropped] at admitted
  · simp [dropped] at admitted
  · exact .inl accepted
  · exact .inr ⟨e, by rw [keyed]; exact held, settled_of_hit settled⟩

def Closed (stack : Prop) (justified : UInt32 -> Prop) (out : UplinkOut) : Prop :=
  (∀ tap, ToTap out tap -> justified tap) /\ (ToStack out -> stack)

lemma closed_sent {justified : UInt32 -> Prop} {action : Action}
  (sent : action = .drop \/ action = if peerCapable then .redirectPeer tap else .redirect tap)
  (home : justified tap) : Closed stack justified ⟨action, none⟩ := by
  rcases sent with rfl | rfl
  · simp [Closed, ToTap, ToStack]
  · cases peerCapable <;> simpa [Closed, ToTap, ToStack] using home

lemma closed_dropped (stack : Prop) (justified : UInt32 -> Prop) : Closed stack justified .dropped := by
  simp [Closed, ToTap, ToStack, UplinkOut.dropped]

lemma closed_edge (edge : stack) (justified : UInt32 -> Prop) (mac : Vector UInt8 6) (ethertype : UInt16) :
  Closed stack justified ⟨(edgeLocalDeliver pkt mac ethertype).1, none⟩ := by
  refine ⟨fun tap reached => ?_, fun _ => edge⟩
  have never := edgeLocalDeliver_no_tap pkt mac ethertype tap
  exact (reached.2.elim never.1 never.2).elim

lemma processUplink_closed :
  Closed (WanEdge maps inp.node) (Justified maps fw s pkt inp) (processUplink maps fw s pkt inp).1 := by
  unfold processUplink
  rcases routed : uplinkRoute maps pkt inp with ⟨relayed, route, p⟩
  have sound := uplinkRoute_sound fw s routed
  cases route with
  | drop => exact closed_dropped _ _
  | relay tunnel => simp [Closed, ToTap, ToStack]
  | edge => exact closed_edge sound _ _ _
  | tap tap mac isLb peerCapable =>
    dsimp only
    rcases admitUplink_cases maps fw s p inp relayed tap mac isLb peerCapable with
      ⟨_, _, _, result⟩ | ⟨checked, action, _, _, _, sent, result⟩
    · rw [result]
      exact closed_dropped _ _
    · rw [result]
      refine closed_sent sent (sound ?_)
      cases relayed with
      | true => exact .inl rfl
      | false => exact .inr (cleared4_of_admitted (checked rfl))

lemma processUplinkV6_closed {nat : Option Pkt} (returned : natReturnDnat6 maps s.natCt6 pkt inp.vni = nat) :
  Closed (WanEdge maps inp.node) (Justified6 maps fw s (nat.getD pkt) nat.isSome inp)
    (processUplinkV6 maps fw s pkt inp).1 := by
  unfold processUplinkV6
  rw [returned]
  dsimp only
  rcases routed : uplinkRoute6 maps (nat.getD pkt) inp with ⟨relayed, route⟩
  have sound := uplinkRoute6_sound fw s nat.isSome routed
  cases route with
  | drop => exact closed_dropped _ _
  | relay tunnel => simp [Closed, ToTap, ToStack]
  | edge => exact closed_edge sound _ _ _
  | tap tap mac isLb peerCapable =>
    rcases admitUplink6_cases maps fw s (nat.getD pkt) inp (nat.isSome || relayed) nat.isSome tap mac isLb
      peerCapable with ⟨_, _, _, result⟩ | ⟨checked, action, _, _, _, sent, result⟩
    · simp only [result]
      exact closed_dropped _ _
    · simp only [result]
      refine closed_sent sent (sound ?_)
      cases exempt : nat.isSome || relayed with
      | true => exact .inl rfl
      | false => exact .inr (cleared6_of_admitted (checked exempt))

-- Nothing that decides whether a packet can be expanded is touched by the reverse translation.
lemma nat64IngressParse_none_iff {q : Pkt} {hdr : Vector UInt8 20} (header : q.readArray 20 ethLen = some hdr)
  (short : ihl hdr = 5) (guestIpv6 : Vector UInt8 16) (mac : Vector UInt8 6) (port : UInt16) :
  nat64IngressParse q ethLen guestIpv6 mac port = none ↔
    (∀ off, l4CksumOff (l4Proto hdr) = some off -> q.length < ethLen + 20 + off + 2) \/ wordAt hdr 2 < 20 \/
      guestIpv6 = Vector.replicate 16 0 := by
  simp only [nat64IngressParse, header, Option.bind_eq_bind, Option.bind_some]
  cases place : l4CksumOff (l4Proto hdr) with
  | none => simp
  | some off =>
    simp only [Option.bind_some, Option.some.injEq, forall_eq']
    cases read : q.readU16Be (ethLen + 20 + off) with
    | none =>
      have past := (Pkt.readArray_eq_none q 2 _).mp (Option.map_eq_none_iff.mp read)
      simp [past]
    | some check =>
      have within := readU16Be_le q read
      split <;> simp_all

lemma length_ctApplyL4 (pkt : Pkt) (l4 : Nat) (proto : UInt8) (rel : Nat)
  (oldAddr newAddr : Vector UInt8 4) (xlatePort : UInt16) :
  (ctApplyL4 pkt l4 proto rel oldAddr newAddr xlatePort).length = pkt.length := by
  unfold ctApplyL4
  split
  · split <;> simp only [length_writeArray_getD]
  · split
    · split <;> simp only [length_writeArray_getD]
    · split
      · split <;> simp only [length_writeArray_getD]
      · rfl

lemma ctApply_return_cases (pkt : Pkt) (back : e.flags &&& ctRewriteDst ≠ 0) :
  (ctApply pkt ethLen e = none /\ ∀ hdr, pkt.readArray 20 ethLen = some hdr -> ihl hdr ≠ 5) \/
    ∃ hdr rel check q, pkt.readArray 20 ethLen = some hdr /\ ihl hdr = 5 /\ (rel = 12 \/ rel = 16) /\
      ctApply pkt ethLen e = some q /\ q.length = pkt.length /\
      q.readArray 20 ethLen = some (copyAt (copyAt hdr 10 (be16 check)) rel e.xlateIp) := by
  have rewrites : ¬ e.flags &&& (ctRewriteSrc ||| ctRewriteDst) = 0 := by
    intro none
    have inside : (ctRewriteSrc ||| ctRewriteDst) &&& ctRewriteDst = ctRewriteDst := by decide
    apply back
    rw [<- inside, <- UInt8.and_assoc, none, UInt8.zero_and]
  cases header : pkt.readArray 20 ethLen with
  | none => exact .inl ⟨by simp [ctApply, rewrites, header], nofun⟩
  | some hdr =>
    by_cases short : ihl hdr = 5
    · obtain ⟨rel, relPort, source⟩ : ∃ rel relPort : Nat, e.flags &&& ctRewriteSrc ≠ 0 /\ rel = 12 /\ relPort = 0 \/
          e.flags &&& ctRewriteSrc = 0 /\ e.flags &&& ctRewriteDst ≠ 0 /\ rel = 16 /\ relPort = 2 := by
        by_cases src : e.flags &&& ctRewriteSrc = 0
        · exact ⟨16, 2, .inr ⟨src, back, rfl, rfl⟩⟩
        · exact ⟨12, 0, .inl ⟨src, rfl, rfl⟩⟩
      have field : rel = 12 \/ rel = 16 := by omega
      have fits : rel + 4 <= 20 := by omega
      refine .inr ⟨hdr, rel, csumReplace4 (wordAt hdr 10) (addrAt hdr rel) e.xlateIp, _, rfl, short, field,
        ctApply_eq header short source, ?_, ?_⟩
      · rw [length_ctApplyL4, length_patchHeader header rel fits]
      · rw [readArray_ctApplyL4_before _ _ _ _ _ _ _ 20 ethLen (Nat.le_refl _), header_patchHeader header rel fits]
    · refine .inl ⟨by simp [ctApply, rewrites, header, short], ?_⟩
      rintro _ ⟨⟩
      exact short

lemma nat64Ingress_closed_iff {x : UplinkNat64IngressIn} (back : x.rev.flags &&& ctRewriteDst ≠ 0)
  {justified : UInt32 -> Prop} (home : justified x.tapIfindex) :
  Closed stack justified ⟨(processUplinkNat64Ingress pkt x).1, none⟩ ↔
    stack \/ ¬ ∃ hdr, pkt.readArray 20 ethLen = some hdr /\ ihl hdr = 5 /\
      nat64IngressParse pkt ethLen x.guestIpv6 x.guestMac x.rev.xlatePort = none := by
  unfold processUplinkNat64Ingress
  rcases ctApply_return_cases pkt back with
    ⟨refused, options⟩ | ⟨hdr, rel, check, q, header, short, field, applied, length, header'⟩
  · rw [refused]
    refine iff_of_true (closed_dropped _ _) (.inr ?_)
    rintro ⟨hdr, header, short, _⟩
    exact options hdr header short
  · have kept := patchedHeader_kept hdr field check x.rev.xlateIp
    have total : wordAt (copyAt (copyAt hdr 10 (be16 check)) rel x.rev.xlateIp) 2 = wordAt hdr 2 := by
      rw [wordAt_copyAt_apart _ _ rel 2 (.inl (by omega)) (by decide),
        wordAt_copyAt_apart _ _ 10 2 (.inl (by decide)) (by decide)]
    have same : nat64IngressParse q ethLen x.guestIpv6 x.guestMac x.rev.xlatePort = none ↔
      nat64IngressParse pkt ethLen x.guestIpv6 x.guestMac x.rev.xlatePort = none := by
      rw [nat64IngressParse_none_iff header' (kept.1.trans short),
        nat64IngressParse_none_iff header short, kept.2.1, total, length]
    simp only [applied, header, Option.some.injEq, exists_eq_left', short, true_and, <- same]
    cases parsed : nat64IngressParse q ethLen x.guestIpv6 x.guestMac x.rev.xlatePort with
    | none => simp [Closed, ToTap, ToStack]
    | some xlate =>
      refine iff_of_true ?_ (.inr nofun)
      dsimp only
      split
      · exact closed_dropped _ _
      · simpa [Closed, ToTap, ToStack] using home

lemma processUplinkNatReturn_closed {key : CtKey} (entry : natReturnEntry maps s.conntrack pkt inp.vni = some (key, e)) :
  Closed stack (Justified maps fw s pkt inp) ⟨(processUplinkNatReturn maps s.conntrack pkt inp.vni inp.node).1, none⟩ := by
  obtain ⟨isIcmpError, keyed, held, back⟩ := natReturnEntry_cases entry
  have filtered : (some e).filter (fun e => e.flags &&& ctRewriteDst != 0) = some e :=
    Option.filter_eq_some_iff.mpr ⟨rfl, bne_iff_ne.mpr back⟩
  simp only [processUplinkNatReturn, natReturnApply, keyed, held, filtered]
  cases (if isIcmpError then natIcmpErrorReturnRewrite pkt ethLen e else ctApply pkt ethLen e) with
  | none => exact closed_dropped _ _
  | some q =>
    simp only [Option.map_some, resolveUplinkTarget]
    rcases uplinkTarget_cases maps (maps.ifaces inp.vni e.xlateIp) inp.node with
      target | ⟨target, _⟩ | ⟨iv, known, isLocal, target⟩
    · rw [target]
      exact closed_dropped _ _
    · rw [target]
      exact closed_dropped _ _
    · rw [target]
      dsimp only
      have home : Justified maps fw s pkt inp iv.tapIfindex := .natReturn key e entry ⟨iv, known, isLocal, rfl⟩
      rcases decapAndRewrite_cases q iv.tapIfindex iv.guestMac ethPIp (resolveDeliveryL3 maps iv.tapIfindex)
        (iv.peerCapable != 0) with dropped | ⟨_, _, sent⟩
      · rw [dropped]
        exact closed_dropped _ _
      · rw [sent]
        exact closed_sent (.inr rfl) home

lemma returnNat64_closed_iff {key : CtKey} (entry : natReturnEntry maps s.conntrack pkt inp.vni = some (key, e))
  (nat64 : e.flags &&& ctFNat64 ≠ 0) :
  Closed stack (Justified maps fw s pkt inp) (returnNat64 maps fw s pkt inp key e).1 ↔
    stack \/ ¬ Unexpandable maps s.conntrack pkt inp := by
  obtain ⟨_, _, _, back⟩ := natReturnEntry_cases entry
  have exact_ : Unexpandable maps s.conntrack pkt inp ↔ ∃ iv, maps.ifaces inp.vni e.xlateIp = some iv /\ iv.isLocal ≠ 0 /\
      ∃ hdr, pkt.readArray 20 ethLen = some hdr /\ ihl hdr = 5 /\ nat64IngressParse pkt ethLen
        (resolveNat64GuestIpv6 maps iv.tapIfindex) iv.guestMac e.xlatePort = none := by
    constructor
    · rintro ⟨key', e', iv, hdr, entry', _, known, isLocal, rest⟩
      rw [entry] at entry'
      cases entry'
      exact ⟨iv, known, isLocal, hdr, rest⟩
    · rintro ⟨iv, known, isLocal, hdr, rest⟩
      exact ⟨key, e, iv, hdr, entry, nat64, known, isLocal, rest⟩
  rw [exact_]
  unfold returnNat64
  have xlate : (refreshed pkt ethLen e inp.now fw.epoch).xlateIp = e.xlateIp := rfl
  simp only [resolveUplinkTarget, xlate]
  rcases uplinkTarget_cases maps (maps.ifaces inp.vni e.xlateIp) inp.node with
    target | ⟨target, _⟩ | ⟨iv, known, isLocal, target⟩
  iterate 2
    rw [target]
    refine iff_of_true (closed_dropped _ _) (.inr ?_)
    rintro ⟨iv, known, isLocal, _⟩
    cases (resolveUplinkTarget_local known isLocal).symm.trans target
  · have home : Justified maps fw s pkt inp iv.tapIfindex := .natReturn key e entry ⟨iv, known, isLocal, rfl⟩
    rw [target]
    refine (nat64Ingress_closed_iff back home).trans (or_congr_right (not_congr ?_))
    simp [known, isLocal, refreshed]

theorem uplink_fails_closed_iff (maps : Maps) (fw : FwReads) (s : Flows) (pkt : Pkt) (inp : UplinkIn) :
  (Closed (WanEdge maps inp.node) (Justified maps fw s pkt inp) (processUplinkRx maps fw s pkt inp).1 /\
    Closed (WanEdge maps inp.node) (Justified6 maps fw s ((natReturnDnat6 maps s.natCt6 pkt inp.vni).getD pkt)
        (natReturnDnat6 maps s.natCt6 pkt inp.vni).isSome inp)
      (processUplinkV6 maps fw s pkt inp).1) ↔
    WanEdge maps inp.node \/ ¬ Unexpandable maps s.conntrack pkt inp := by
  rw [and_iff_left (processUplinkV6_closed rfl)]
  unfold processUplinkRx
  split
  next unreturned =>
    refine iff_of_true processUplink_closed (.inr ?_)
    rintro ⟨key, e, _, _, entry, _⟩
    rw [unreturned] at entry
    cases entry
  next key e entry =>
    split
    next nat64 => exact returnNat64_closed_iff entry nat64
    next plain =>
      refine iff_of_true (processUplinkNatReturn_closed entry) (.inr ?_)
      rintro ⟨key', e', _, _, entry', nat64, _⟩
      rw [entry] at entry'
      cases entry'
      exact plain nat64

end

-- A NAT64 answer with a total length below that of its header, on a node that is no edge.
theorem truncated_answer_reaches_stack :
  let inp : UplinkIn := ⟨5, ⟨1, Vector.replicate 6 0, Octets.zero 16⟩, 1⟩
  ¬ WanEdge Maps.dual inp.node /\ (processUplinkRx Maps.dual (FwPolicies.closed.steady 0)
      ⟨Conntrack.dualStep onePort natGuest.port ∅ (.v6 dnsFrame6 0), ∅, ∅, ∅⟩
      (dnsAnswer.set 17 19) inp).1.action = .pass := by
  intro inp
  refine ⟨?_, by decide +kernel⟩
  rintro ⟨_, mapped, _⟩
  cases mapped

end Ectobase.Flowplane
