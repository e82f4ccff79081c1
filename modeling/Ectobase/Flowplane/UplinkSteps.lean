import Ectobase.Flowplane.GuestTxSteps
import Ectobase.Flowplane.Rewrites

namespace Ectobase.Flowplane

open Shared

lemma decapAndRewrite_cases (pkt : Pkt) (tap : UInt32) (guestMac : Vector UInt8 6)
  (ethertype : UInt16) (l3 peerCapable : Bool) :
  decapAndRewrite pkt tap guestMac ethertype l3 peerCapable = (.drop, pkt) \/
    ∃ p, SameFrom ethLen p pkt /\ decapAndRewrite pkt tap guestMac ethertype l3 peerCapable
      = (if peerCapable then .redirectPeer tap else .redirect tap, p) := by
  unfold decapAndRewrite
  dsimp only
  split
  · exact .inl rfl
  next p written => exact .inr ⟨p, sameFrom_rewriteEth written, rfl⟩

lemma decapAndRewrite_delivers {pkt : Pkt} (header : 14 <= pkt.length) (tap : UInt32)
  (guestMac : Vector UInt8 6) (ethertype : UInt16) (l3 peerCapable : Bool) :
  ∃ p, SameFrom ethLen p pkt /\ p.readU16Be 12 = some ethertype /\ decapAndRewrite pkt tap guestMac ethertype l3 peerCapable
      = (if peerCapable then .redirectPeer tap else .redirect tap, p) := by
  unfold decapAndRewrite
  dsimp only
  generalize (if l3 then Vector.replicate 6 0 else guestMac) = mac
  have one : 0 + 6 <= pkt.length := by omega
  have two : 6 + 6 <= (splice pkt 0 mac).length := by
    rw [length_splice pkt 0 mac one]
    omega
  have three : 12 + 2 <= (splice (splice pkt 0 mac) 6 gwMac).length := by
    rw [length_splice _ 6 gwMac two, length_splice pkt 0 mac one]
    omega
  have written : rewriteEth pkt mac ethertype = some (splice (splice (splice pkt 0 mac) 6 gwMac) 12 (be16 ethertype)) := by
    simp [rewriteEth, writeArray_of_within pkt 0 mac one, writeArray_of_within _ 6 gwMac two,
      writeArray_of_within _ 12 (be16 ethertype) three]
  rw [written]
  exact ⟨_, sameFrom_rewriteEth written, readU16Be_splice_same _ ethertype three, rfl⟩

lemma decapAndRewrite_of_header {pkt : Pkt} (header : 14 <= pkt.length) (tap : UInt32)
  (guestMac : Vector UInt8 6) (ethertype : UInt16) (l3 : Bool) :
  (decapAndRewrite pkt tap guestMac ethertype l3 false).1 = .redirect tap := by
  obtain ⟨_, _, _, delivered⟩ := decapAndRewrite_delivers header tap guestMac ethertype l3 false
  rw [delivered]
  rfl

lemma edgeLocalDeliver_no_tap (pkt : Pkt) (uplinkMac : Vector UInt8 6) (ethertype : UInt16) (tap : UInt32) :
  (edgeLocalDeliver pkt uplinkMac ethertype).1 ≠ .redirect tap /\
    (edgeLocalDeliver pkt uplinkMac ethertype).1 ≠ .redirectPeer tap := by
  unfold edgeLocalDeliver
  split <;> simp

lemma uplinkIngressFirewall_cases (fw : FwReads) (ct : Conntrack) (pkt : Pkt) (vni tap : UInt32) :
  Gate (ctKey pkt ethLen vni) ct (fwClassify pkt fw.first.v4 ethLen tap fwDirIngress)
    (ctHitRecheck pkt ethLen · fw.epoch) (uplinkIngressFirewall fw ct pkt ethLen vni tap) (none, ct)
    (fun key => (none, if (ct.lookup key).isSome then forgetFlow invertKey ct key else ct))
    (fun _ => (some fw.epoch, ct)) fun _ _ => (some fw.epoch, ct) := by
  refine gate (fwClassify_cases _ _ _ _ _) ?_ ?_ ?_ ?_
  · intro unkeyed
    simp [uplinkIngressFirewall, unkeyed]
  · intro key keyed due refused
    simp only [uplinkIngressFirewall, keyed]
    rw [if_pos ⟨due, refused⟩, ctForgetDefault_eq ct pkt ethLen vni keyed]
  · intro key keyed _ accepted
    simp [uplinkIngressFirewall, keyed, accepted, accept_ne_drop]
  · intro key e keyed held settled
    simp [uplinkIngressFirewall, keyed, held, settled]

lemma uplinkIngressFirewall6_cases (fw : FwReads) (ct : Conntrack6) (pkt : Pkt) (vni tap : UInt32) :
  Gate (ctKey6 pkt ethLen vni) ct (fwClassify6 pkt fw.first.v6 ethLen tap fwDirIngress)
    (ctHitRecheck6 pkt ethLen · fw.epoch) (uplinkIngressFirewall6 fw ct pkt ethLen vni tap) (none, ct)
    (fun key => (none, if (ct.lookup key).isSome then forgetFlow invertKey6 ct key else ct))
    (fun _ => (some fw.epoch, ct)) fun _ _ => (some fw.epoch, ct) := by
  refine gate (fwClassify6_cases _ _ _ _ _) ?_ ?_ ?_ ?_
  · intro unkeyed
    simp [uplinkIngressFirewall6, unkeyed]
  · intro key keyed due refused
    simp only [uplinkIngressFirewall6, keyed]
    rw [if_pos ⟨due, refused⟩, ctForgetDefault6_eq ct pkt ethLen vni keyed]
  · intro key keyed _ accepted
    simp [uplinkIngressFirewall6, keyed, accepted, accept_ne_drop]
  · intro key e keyed held settled
    simp [uplinkIngressFirewall6, keyed, held, settled]

lemma uplinkRoute_cases {maps : Maps} {pkt p : Pkt} {inp : UplinkIn} {isIcmpRelay : Bool}
  {route : UplinkRoute} (routed : uplinkRoute maps pkt inp = (isIcmpRelay, route, p)) :
  (isIcmpRelay = true -> (lbSelectForwardIcmpError pkt maps ethLen inp.vni).isSome) /\
    (p = pkt \/ isIcmpRelay = false /\ ∃ dst g, pkt.readArray 4 (ethLen + 16) = some dst /\
      maps.floatingIp inp.vni dst = some g /\ p = floatingIpDnatRewrite pkt ethLen dst g) := by
  unfold uplinkRoute at routed
  dsimp only at routed
  split at routed
  · cases routed
    exact ⟨id, .inl rfl⟩
  · unfold baseRoute at routed
    split at routed
    · cases routed
      exact ⟨nofun, .inl rfl⟩
    next dst read =>
      split at routed
      next g floating =>
        cases routed
        exact ⟨nofun, .inr ⟨rfl, dst, g, read, floating, rfl⟩⟩
      · split at routed
        · cases routed
          exact ⟨nofun, .inl rfl⟩
        · cases routed
          exact ⟨nofun, .inl rfl⟩

def ToGuest (result : UplinkOut × Pkt × Flows) (pkt : Pkt) (tap : UInt32) (peerCapable : Bool)
  (after : Map UInt32 MeterState -> Flows) : Prop :=
  ∃ action p meter, SameFrom ethLen p pkt /\
    (action = .drop \/ action = if peerCapable then .redirectPeer tap else .redirect tap) /\
    result = (⟨action, none⟩, p, after meter)

variable (maps : Maps) (fw : FwReads) (s : Flows) (pkt : Pkt) (inp : UplinkIn)

lemma deliverUplink_cases (tap : UInt32) (guestMac : Vector UInt8 6) (peerCapable : Bool) :
  ToGuest (deliverUplink maps s pkt inp tap guestMac peerCapable) pkt tap peerCapable fun meter => { s with meter } := by
  unfold deliverUplink
  rcases decapAndRewrite_cases pkt tap guestMac ethPIp (resolveDeliveryL3 maps tap) peerCapable with
    dropped | ⟨p, same, delivered⟩
  · rw [dropped]
    exact ⟨.drop, pkt, s.meter, SameFrom.refl _ _, .inl rfl, rfl⟩
  · rw [delivered]
    have sent : ¬ (if peerCapable then Action.redirectPeer tap else .redirect tap) = .drop := by
      cases peerCapable <;> simp
    dsimp only
    rw [if_neg sent]
    rcases ingressPass s.meter tap p.length.toUInt64 inp.now with ⟨pass, meter⟩
    cases pass with
    | true => exact ⟨_, p, meter, same, .inr rfl, rfl⟩
    | false => exact ⟨_, p, meter, same, .inl rfl, rfl⟩

def Flows.admitted (s : Flows) (pkt : Pkt) (inp : UplinkIn) (epoch : UInt32) (isLb : Bool)
  (meter : Map UInt32 MeterState) : Flows :=
  { s with
    conntrack := if isLb then s.conntrack else trackFlow s.conntrack pkt ethLen inp.vni inp.now epoch
    meter }

lemma admitUplink_cases (isIcmpRelay : Bool) (tap : UInt32) (guestMac : Vector UInt8 6) (isLb peerCapable : Bool) :
  (isIcmpRelay = false /\ ∃ ct, uplinkIngressFirewall fw s.conntrack pkt ethLen inp.vni tap = (none, ct) /\
    admitUplink maps fw s pkt inp isIcmpRelay tap guestMac isLb peerCapable = (.dropped, pkt, { s with conntrack := ct })) \/
    (isIcmpRelay = false -> uplinkIngressFirewall fw s.conntrack pkt ethLen inp.vni tap = (some fw.epoch, s.conntrack)) /\
      ToGuest (admitUplink maps fw s pkt inp isIcmpRelay tap guestMac isLb peerCapable) pkt tap
        peerCapable (s.admitted pkt inp fw.epoch isLb) := by
  have sent := deliverUplink_cases maps (s.admitted pkt inp fw.epoch isLb s.meter) pkt inp tap guestMac peerCapable
  unfold admitUplink
  cases isIcmpRelay with
  | true => exact .inr ⟨nofun, sent⟩
  | false =>
    rcases uplinkIngressFirewall_cases fw s.conntrack pkt inp.vni tap with
      ⟨_, dropped⟩ | ⟨key, _, ⟨_, _, dropped⟩ | ⟨_, _, admitted⟩ | ⟨_, _, _, admitted⟩⟩
    · exact .inl ⟨rfl, _, dropped, by simp [dropped]⟩
    · exact .inl ⟨rfl, _, dropped, by simp [dropped]⟩
    · exact .inr ⟨fun _ => admitted, by rw [admitted]; exact sent⟩
    · exact .inr ⟨fun _ => admitted, by rw [admitted]; exact sent⟩

lemma processUplink_cases : (∃ out p, processUplink maps fw s pkt inp = (out, p, s) /\
    (out.tunnel = none -> ∀ tap, out.action ≠ .redirect tap /\ out.action ≠ .redirectPeer tap)) \/
    ∃ isIcmpRelay tap guestMac isLb peerCapable p,
      uplinkRoute maps pkt inp = (isIcmpRelay, .tap tap guestMac isLb peerCapable, p) /\
      processUplink maps fw s pkt inp = admitUplink maps fw s p inp isIcmpRelay tap guestMac isLb peerCapable := by
  unfold processUplink
  rcases routed : uplinkRoute maps pkt inp with ⟨isIcmpRelay, route, p⟩
  cases route with
  | drop => exact .inl ⟨_, _, rfl, fun _ _ => ⟨nofun, nofun⟩⟩
  | relay tunnel => exact .inl ⟨_, _, rfl, nofun⟩
  | edge =>
    exact .inl ⟨_, _, rfl, fun _ => edgeLocalDeliver_no_tap _ _ _⟩
  | tap tap guestMac isLb peerCapable => exact .inr ⟨_, _, _, _, _, p, rfl, rfl⟩

def Flows.admitted6 (s : Flows) (pkt : Pkt) (inp : UplinkIn) (epoch : UInt32) (untracked : Bool) : Flows :=
  { s with
    conntrack6 := if untracked then s.conntrack6
      else trackFlow6 s.conntrack6 pkt ethLen inp.vni inp.now epoch }

lemma admitUplink6_cases (exempt isNatReturn : Bool) (tap : UInt32) (guestMac : Vector UInt8 6) (isLb peerCapable : Bool) :
  (exempt = false /\ ∃ ct, uplinkIngressFirewall6 fw s.conntrack6 pkt ethLen inp.vni tap = (none, ct) /\
    admitUplink6 maps fw s pkt inp exempt isNatReturn tap guestMac isLb peerCapable
      = (.dropped, pkt, { s with conntrack6 := ct })) \/
    (exempt = false -> uplinkIngressFirewall6 fw s.conntrack6 pkt ethLen inp.vni tap = (some fw.epoch, s.conntrack6)) /\
      ToGuest (admitUplink6 maps fw s pkt inp exempt isNatReturn tap guestMac isLb peerCapable) pkt
        tap peerCapable fun _ => s.admitted6 pkt inp fw.epoch (isLb || isNatReturn) := by
  have delivered (passed : (if exempt then (some fw.epoch, s.conntrack6)
    else uplinkIngressFirewall6 fw s.conntrack6 pkt ethLen inp.vni tap) = (some fw.epoch, s.conntrack6)) :
    ToGuest (admitUplink6 maps fw s pkt inp exempt isNatReturn tap guestMac isLb peerCapable) pkt
      tap peerCapable fun _ => s.admitted6 pkt inp fw.epoch (isLb || isNatReturn) := by
    unfold admitUplink6
    rw [passed]
    rcases decapAndRewrite_cases pkt tap guestMac ethPIpv6 (resolveDeliveryL3 maps tap) peerCapable with
      dropped | ⟨p, same, sent⟩
    · exact ⟨.drop, pkt, s.meter, SameFrom.refl _ _, .inl rfl, by simp [dropped, Flows.admitted6]⟩
    · exact ⟨_, p, s.meter, same, .inr rfl, by simp [sent, Flows.admitted6]⟩
  cases exempt with
  | true => exact .inr ⟨nofun, delivered rfl⟩
  | false =>
    rcases uplinkIngressFirewall6_cases fw s.conntrack6 pkt inp.vni tap with
      ⟨_, dropped⟩ | ⟨key, _, ⟨_, _, dropped⟩ | ⟨_, _, admitted⟩ | ⟨_, _, _, admitted⟩⟩
    · exact .inl ⟨rfl, _, dropped, by simp [admitUplink6, dropped]⟩
    · exact .inl ⟨rfl, _, dropped, by simp [admitUplink6, dropped]⟩
    · exact .inr ⟨fun _ => admitted, delivered admitted⟩
    · exact .inr ⟨fun _ => admitted, delivered admitted⟩

lemma processUplinkV6_cases : let nat := natReturnDnat6 maps s.natCt6 pkt inp.vni
  (∃ out p, processUplinkV6 maps fw s pkt inp = (out, p, s) /\
    (out.tunnel = none -> ∀ tap, out.action ≠ .redirect tap /\ out.action ≠ .redirectPeer tap)) \/
    ∃ isIcmpRelay tap guestMac isLb peerCapable,
      uplinkRoute6 maps (nat.getD pkt) inp = (isIcmpRelay, .tap tap guestMac isLb peerCapable) /\
      processUplinkV6 maps fw s pkt inp
        = admitUplink6 maps fw s (nat.getD pkt) inp (nat.isSome || isIcmpRelay) nat.isSome tap guestMac isLb peerCapable := by
  intro nat
  unfold processUplinkV6
  dsimp only
  rcases routed : uplinkRoute6 maps (nat.getD pkt) inp with ⟨isIcmpRelay, route⟩
  cases route with
  | drop => exact .inl ⟨_, _, rfl, fun _ _ => ⟨nofun, nofun⟩⟩
  | relay tunnel => exact .inl ⟨_, _, rfl, nofun⟩
  | edge =>
    exact .inl ⟨_, _, rfl, fun _ => edgeLocalDeliver_no_tap _ _ _⟩
  | tap tap guestMac isLb peerCapable => exact .inr ⟨_, _, _, _, _, rfl, rfl⟩

end Ectobase.Flowplane
