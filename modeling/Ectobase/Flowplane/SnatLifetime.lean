import Ectobase.Flowplane.NatReturn
import Ectobase.Flowplane.NoLeak64

namespace Ectobase.Flowplane

open Shared Option FwPolicies

inductive NodeOp where
  | guestTx (fw : FwReads) (pkt : Pkt) (inp : GuestTxIn)
  | uplinkRx (fw : FwReads) (pkt : Pkt) (inp : UplinkIn)
  | sweep (key : CtKey) (now : UInt64)

def NodeOp.now : NodeOp -> UInt64
  | .guestTx _ _ inp => inp.now
  | .uplinkRx _ _ inp => inp.now
  | .sweep _ now => now

def Flows.step (maps : Maps) (s : Flows) : NodeOp -> Flows
  | .guestTx fw pkt inp => (processGuestTx maps fw s pkt inp).2.2
  | .uplinkRx fw pkt inp => (processUplinkRx maps fw s pkt inp).2.2
  | .sweep key now => { s with conntrack := sweepEntry s.conntrack key now }

variable {k : CtKey} {ct ct' : Conntrack} {fw : FwReads} {pkt : Pkt} {inp : GuestTxIn} {s : Flows}

lemma keptAt_forgetFlow (ct : Conntrack) {key : CtKey} (apart : key ≠ k) : KeptAt ct (forgetFlow invertKey ct k) key := by
  intro e held natted
  rcases lookup_forgetFlow_of_ne invertKey ct k key apart with same | ⟨_, _, e', held', reply⟩
  · exact ⟨e, by rw [same]; exact held, rfl⟩
  · rw [held] at held'
    cases held'
    exact absurd (by rw [reply]; decide) natted

-- No interface and no load balancer has the NAT address.
structure SnatFlow (maps : Maps) where
  key : CtKey
  binding : NatValue
  guest : IfaceValue
  route : RouteValue
  proto : key.proto = ipprotoTcp \/ key.proto = ipprotoUdp
  bound : maps.nat.lookup ⟨key.vni, key.srcIp⟩ = some binding
  range : binding.portMax - binding.portMin ≠ 0
  home : maps.ifaces key.vni key.srcIp = some guest
  isLocal : guest.isLocal ≠ 0
  unbalanced : maps.dsr key = none
  routed : maps.route4 key.vni key.dstIp = some route
  external : route.isExternal ≠ 0
  registered : maps.isNatIp key.vni binding.natIpv4 = true
  unserved : ∀ port, maps.lb ⟨key.vni, binding.natIpv4, port, key.proto⟩ = none
  foreign : ∀ iv, maps.ifaces key.vni binding.natIpv4 = some iv -> iv.isLocal = 0
  -- what is reached through an external route is not on this node
  outside : ∀ dst route iv, maps.route4 key.vni dst = some route -> route.isExternal ≠ 0 ->
    maps.ifaces key.vni dst = some iv -> iv.isLocal = 0

namespace SnatFlow

variable {maps : Maps} (f : SnatFlow maps)

structure Frame (pkt : Pkt) (vni : UInt32) : Prop where
  keyed : ctKey pkt ethLen vni = some f.key
  whole : wholeHeader pkt = true
  window : (pkt.readArray 20 ethLen).all
    (fun hdr => l4Start ethLen hdr + l4Window f.key.proto <= pkt.length) = true

def Translated (p : UInt16) (out : Pkt) : Prop :=
  out.readArray 4 (ethLen + 12) = some f.binding.natIpv4 /\ carriedPort out = some p

def ReplyTo (p : UInt16) (pkt : Pkt) (vni : UInt32) : Prop :=
  vni = f.key.vni /\ ∃ hdr sport, Reply pkt hdr f.key.proto sport p /\ addrAt hdr 16 = f.binding.natIpv4

def Delivered (r : UplinkOut × Pkt × Flows) : Prop :=
  r.1.action = (if f.guest.peerCapable != 0 then .redirectPeer f.guest.tapIfindex
    else .redirect f.guest.tapIfindex) /\
  r.2.1.readArray 4 (ethLen + 16) = some f.key.srcIp /\
  (l4Ports r.2.1 ethLen).map (fun ports => ports.2.2) = some f.key.srcPort

def Sends (s : Flows) (ops : List NodeOp) (i : Nat) (out : Pkt) : Prop :=
  ∃ fw pkt inp, ops[i]? = some (.guestTx fw pkt inp) /\ f.Frame pkt inp.port.vni /\
    let r := processGuestTx maps fw ((ops.take i).foldl (Flows.step maps) s) pkt inp
    r.1.action ≠ .drop /\ r.2.1 = out

def KeepsTranslation (s : Flows) (ops : List NodeOp) : Prop :=
  ∃ p, (∀ i out, f.Sends s ops i out -> f.Translated p out) /\
    ∀ i out j fw pkt inp, f.Sends s ops i out -> i < j -> ops[j]? = some (.uplinkRx fw pkt inp) -> f.ReplyTo p pkt inp.vni ->
      f.Delivered (processUplinkRx maps fw ((ops.take j).foldl (Flows.step maps) s) pkt inp)

def Owns (ct : Conntrack) (key : CtKey) : Prop :=
  key = f.key \/ ∃ e, ct.lookup f.key = some e /\ e.flags &&& ctFSrcNat ≠ 0 /\
    key = revKey f.key.vni f.binding.natIpv4 e.xlatePort f.key.proto

-- No sweep finds an entry expired, no firewall refuses its keys, no IP options come in.
def Orderly (s : Flows) : NodeOp -> Prop
  | .guestTx fw pkt inp => ∀ key, ctKey pkt ethLen inp.port.vni = some key -> f.Owns s.conntrack key ->
      fwClassify pkt fw.first.v4 ethLen inp.srcIfindex fwDirEgress = fwActionAccept
  | .uplinkRx fw pkt inp =>
    (∀ relay tap mac isLb peer p key, uplinkRoute maps pkt inp = (relay, .tap tap mac isLb peer, p) ->
      ctKey p ethLen inp.vni = some key -> f.Owns s.conntrack key ->
      fwClassify p fw.first.v4 ethLen tap fwDirIngress = fwActionAccept) /\
    ∀ hdr, pkt.readArray 20 ethLen = some hdr -> addrAt hdr 16 = f.binding.natIpv4 -> ihl hdr = 5
  | .sweep key now => f.Owns s.conntrack key -> ∀ e, s.conntrack.lookup key = some e -> ctIsExpired e now = false

def Backed (ct : Conntrack) : Prop := ∀ e, ct.lookup f.key = some e -> e.flags &&& ctFSrcNat ≠ 0 ->
  ∃ r, ct.lookup (revKey f.key.vni f.binding.natIpv4 e.xlatePort f.key.proto) = some r /\
    r.xlation = (ctRewriteDst ||| ctFSrcNat, f.key.srcIp, f.key.srcPort)

structure Carried (ct ct' : Conntrack) : Prop where
  kept : ∀ key, f.Owns ct key -> KeptAt ct ct' key
  backed : f.Backed ct -> f.Backed ct'

variable {f}

lemma Carried.trans {a b c : Conntrack} (first : f.Carried a b) (second : f.Carried b c) : f.Carried a c := by
  refine ⟨fun key owned => (first.kept key owned).trans (second.kept key ?_),
    fun backed => second.backed (first.backed backed)⟩
  rcases owned with here | ⟨e, held, natted, rfl⟩
  · exact .inl here
  · obtain ⟨e', held', same⟩ := first.kept f.key (.inl rfl) e held natted
    have flags : e'.flags = e.flags := congrArg (fun x => x.1) same
    have port : e'.xlatePort = e.xlatePort := congrArg (fun x => x.2.2) same
    exact .inr ⟨e', held', by rw [flags]; exact natted, by rw [port]⟩

lemma carried_of_kept (kept : ∀ key, f.Owns ct key -> KeptAt ct ct' key)
  (old : ∀ e', ct'.lookup f.key = some e' -> e'.flags &&& ctFSrcNat ≠ 0 -> ∃ e, ct.lookup f.key =
    some e /\ e.flags &&& ctFSrcNat ≠ 0) : f.Carried ct ct' := by
  refine ⟨kept, fun backed e' held' natted' => ?_⟩
  obtain ⟨e, held, natted⟩ := old e' held' natted'
  obtain ⟨e'', held'', same⟩ := kept f.key (.inl rfl) e held natted
  rw [held'] at held''
  cases held''
  have port : e'.xlatePort = e.xlatePort := congrArg (fun x => x.2.2) same
  obtain ⟨r, there, returns⟩ := backed e held natted
  have reverse : r.flags &&& ctFSrcNat ≠ 0 := by
    rw [show r.flags = ctRewriteDst ||| ctFSrcNat from congrArg (fun x => x.1) returns]
    decide
  obtain ⟨r', there', same'⟩ := kept _ (.inr ⟨e, held, natted, rfl⟩) r there reverse
  exact ⟨r', by rw [port]; exact there', same'.trans returns⟩

lemma Carried.refl (ct : Conntrack) : f.Carried ct ct :=
  carried_of_kept (fun key _ => keptAt_of_keeps (Keeps.refl ct) key) fun e held natted => ⟨e, held, natted⟩

lemma carried_insert {key : CtKey} {e e' : CtEntry} (held : ct.lookup key = some e)
  (same : e'.xlation = e.xlation) : f.Carried ct (ct.insert key e') := by
  refine carried_of_kept (fun k _ => keptAt_of_keeps (keeps_insert held same) k) fun x there natted => ?_
  rw [lookup_insert_ite] at there
  split at there
  next here =>
    cases there
    rw [show e'.flags = e.flags from congrArg (fun x => x.1) same] at natted
    exact ⟨e, by rw [here]; exact held, natted⟩
  · exact ⟨x, there, natted⟩

lemma carried_trackFlow (ct : Conntrack) (pkt : Pkt) (vni : UInt32) (now : UInt64) (epoch : UInt32) :
  f.Carried ct (trackFlow ct pkt ethLen vni now epoch) := by
  rcases trackFlow_cases ct pkt ethLen vni now epoch with
    ⟨_, same⟩ | ⟨key, _, ⟨absent, seeded⟩ | ⟨e, held, refreshed⟩⟩
  · rw [same]
    exact Carried.refl ct
  · rw [seeded]
    refine carried_of_kept (fun k _ => keptAt_of_keeps (keeps_seedFlow absent _) k) fun x there natted => ?_
    rw [lookup_seedFlow] at there
    -- neither the new entry nor its seeded reply is translated
    split at there
    · cases there
      exact absurd (by decide : (ctFDefault ||| ctFReply) &&& ctFSrcNat = 0) natted
    · split at there
      · cases there
        exact absurd (by decide : ctFDefault &&& ctFSrcNat = 0) natted
      · exact ⟨x, there, natted⟩
  · rw [refreshed]
    exact carried_insert held (refreshed_xlation pkt ethLen e now epoch)

lemma carried_forgetFlow (stranger : ¬ f.Owns ct k) : f.Carried ct (forgetFlow invertKey ct k) := by
  refine carried_of_kept (fun key owned => keptAt_forgetFlow ct (fun same => stranger (same ▸ owned))) ?_
  intro x there natted
  have apart : f.key ≠ k := fun same => stranger (.inl same.symm)
  rcases lookup_forgetFlow_of_ne invertKey ct k f.key apart with same | ⟨_, gone, _⟩
  · exact ⟨x, by rw [<- same]; exact there, natted⟩
  · rw [gone] at there
    cases there

lemma carried_erase (stranger : ¬ f.Owns ct k) : f.Carried ct (ct.erase k) := by
  have kept (key : CtKey) (owned : f.Owns ct key) : (ct.erase k).lookup key = ct.lookup key := by
    have apart : key ≠ k := fun same => stranger (same ▸ owned)
    rw [lookup_erase_ite, if_neg apart]
  refine carried_of_kept (fun key owned e held _ => ⟨e, by rw [kept key owned]; exact held, rfl⟩) ?_
  intro x there natted
  exact ⟨x, by rw [<- kept f.key (.inl rfl)]; exact there, natted⟩

variable (nonzero : f.key.srcPort ≠ 0)

include nonzero

lemma carried_allocate {nat : NatValue} {range port : UInt16} {now : UInt64} {epoch : UInt32}
  (allocated : allocate ct nat k range now epoch = some (port, ct'))
  (bound : maps.nat.lookup ⟨k.vni, k.srcIp⟩ = some nat) : f.Carried ct ct' := by
  refine ⟨fun key _ => keptAt_allocateBy allocated key, fun backed e held natted => ?_⟩
  rcases allocateBy_cases allocated with ⟨_, _, _, _, rfl⟩ | ⟨untracked, ⟨free, _⟩, rfl⟩
  · exact backed e held natted
  · have forward (k' : CtKey) (natIp : Vector UInt8 4) : f.key ≠ revKey k'.vni natIp port k'.proto := by
      intro same
      exact nonzero (congrArg CtKey.srcPort same)
    by_cases mine : f.key = k
    · subst mine
      rw [f.bound] at bound
      cases bound
      rw [lookup_insert_ite, if_pos rfl] at held
      cases held
      refine ⟨revEntry f.key now, ?_, rfl⟩
      change ((ct.insert _ _).insert f.key _).lookup (revKey f.key.vni f.binding.natIpv4 port f.key.proto) = _
      rw [lookup_insert_ite, if_neg (forward f.key f.binding.natIpv4).symm, lookup_insert_ite, if_pos rfl]
    · rw [lookup_insert_ite, if_neg mine, lookup_insert_ite, if_neg (forward k nat.natIpv4)] at held
      obtain ⟨r, there, returns⟩ := backed e held natted
      have reverse : r.flags &&& ctFSrcNat ≠ 0 := by
        rw [show r.flags = ctRewriteDst ||| ctFSrcNat from congrArg (fun x => x.1) returns]
        decide
      obtain ⟨r', there', same⟩ := keptAt_allocateBy allocated _ r there reverse
      exact ⟨r', there', same.trans returns⟩

lemma carried_translation (t : Translation maps fw ct pkt inp) : f.Carried ct t.table := by
  have translated := t.snat
  cases isDsr : t.isDsr with
  | true =>
    rw [isDsr] at translated
    have same : ct = t.table := congrArg (fun r => r.2.2) translated
    rw [<- same]
    exact Carried.refl ct
  | false =>
    rw [isDsr, if_neg Bool.false_ne_true] at translated
    obtain ⟨hdr, header⟩ := readArray_of_within (n := 20) t.afterDsr ethLen
      (by have within := readArray_le t.afterDsr _ t.read; omega)
    cases leaving : (t.route.isExternal != 0) with
    | false =>
      rw [leaving] at translated
      have same : ct = t.table := by
        exact congrArg (fun r => r.2.2) translated
      rw [<- same]
      exact Carried.refl ct
    | true =>
      rw [leaving] at translated
      rcases snatEgress_cases header maps.nat ct inp.port.vni inp.now fw.epoch with
        ⟨_, result⟩ | ⟨b, bound, _, ⟨_, result⟩ | ⟨_, _, _, _, ⟨_, result⟩ | ⟨natPort, ct', allocated, result⟩⟩⟩
      · rw [result] at translated
        have same : ct = t.table := congrArg (fun r => r.2.2) translated
        rw [<- same]
        exact Carried.refl ct
      · rw [result] at translated
        cases translated
      · rw [result] at translated
        cases translated
      · rw [result] at translated
        have same : ct' = t.table := congrArg (fun r => r.2.2) translated
        rw [<- same]
        exact carried_allocate nonzero allocated bound

omit nonzero in
lemma refused_stranger (t : Translation maps fw ct pkt inp) {iv : IfaceValue}
  (there : maps.ifaces inp.port.vni t.dst = some iv) (isLocal : iv.isLocal ≠ 0) {key : CtKey}
  (keyed : ctKey t.out ethLen inp.port.vni = some key) : ¬ f.Owns ct' key := by
  intro owned
  have ends : key.vni = f.key.vni /\ (key.dstIp = f.key.dstIp \/ key.dstIp = f.binding.natIpv4) := by
    rcases owned with rfl | ⟨_, _, _, rfl⟩
    · exact ⟨rfl, .inl rfl⟩
    · exact ⟨rfl, .inr rfl⟩
  have vni : inp.port.vni = f.key.vni := (ctKey_vni keyed).symm.trans ends.1
  rw [vni] at there
  have routed := t.routed
  rw [vni] at routed
  have internal : t.route.isExternal = 0 := by
    by_contra leaving
    exact isLocal (f.outside t.dst t.route iv routed leaving there)
  -- a frame that stays inside is not translated by the NAT
  have out : t.afterDsr = t.out := by
    have translated := t.snat
    rw [internal] at translated
    cases isDsr : t.isDsr with
    | true =>
      rw [isDsr] at translated
      exact congrArg (fun r => r.2.1) translated
    | false =>
      rw [isDsr] at translated
      simp [snatEgress] at translated
      exact translated.1
  have read := t.read
  rw [out, readDst_of_ctKey keyed] at read
  have dst : key.dstIp = t.dst := some.inj read
  rcases ends.2 with here | here
  · rw [<- dst, here] at there
    exact isLocal (f.outside f.key.dstIp f.route iv f.routed f.external there)
  · rw [<- dst, here] at there
    exact isLocal (f.foreign iv there)

lemma carried_guestTx (orderly : f.Orderly s (.guestTx fw pkt inp)) :
  f.Carried s.conntrack (processGuestTx maps fw s pkt inp).2.2.conntrack := by
  have routed (s : Flows) (checkDest : Bool) :
    f.Carried s.conntrack (routeGuest maps fw s pkt inp checkDest).2.2.conntrack := by
    rcases routeGuest_cases maps fw s pkt inp checkDest with
      ⟨p, dropped⟩ | ⟨_, p, _, _, _, _, passed⟩ | ⟨t, meter, _, dropped⟩ | ⟨t, meter, tail⟩
    · rw [dropped]
      exact Carried.refl _
    · rw [passed]
      exact Carried.refl _
    · rw [dropped]
      exact (carried_translation nonzero t).trans (carried_trackFlow _ _ _ _ _)
    · rw [tail]
      have tracked : f.Carried s.conntrack (t.tracked meter).conntrack :=
        (carried_translation nonzero t).trans (carried_trackFlow _ _ _ _ _)
      rcases deliverGuest_cases maps fw (t.tracked meter) t.out inp checkDest t.dst t.route with
        ⟨iv, there, isLocal, ⟨_, _, dropped⟩ | ⟨_, sent⟩⟩ | ⟨_, passed | ⟨_, _, _, _, encap⟩⟩
      · rw [dropped]
        refine tracked.trans ?_
        cases keyed : ctKey t.out ethLen inp.port.vni with
        | none =>
          simp only [ctForgetDefault, keyed]
          exact Carried.refl _
        | some key =>
          simp only [ctForgetDefault_eq _ t.out ethLen inp.port.vni keyed]
          exact carried_forgetFlow (refused_stranger t there isLocal keyed)
      · rw [sent]
        exact tracked
      · rw [passed]
        exact tracked
      · rw [encap]
        exact tracked
  unfold processGuestTx
  rcases sourceCheck_cases fw s.conntrack pkt inp with
    ⟨_, unkeyed⟩ | ⟨key, keyed, ⟨refused, _, dropped⟩ | ⟨_, _, passed⟩ | ⟨_, _, _, passed⟩⟩
  · rw [unkeyed]
    exact Carried.refl _
  · rw [dropped]
    have stranger : ¬ f.Owns s.conntrack key := by
      intro owned
      exact absurd ((orderly key keyed owned).symm.trans refused) (by decide)
    dsimp only
    split
    · exact carried_forgetFlow stranger
    · exact Carried.refl _
  · rw [passed]
    refine Carried.trans ?_ (routed _ _)
    cases held : s.conntrack.lookup key with
    | none => exact Carried.refl _
    | some e => exact carried_insert held rfl
  · rw [passed]
    exact routed _ _

omit nonzero in
lemma carried_uplinkRx {inp : UplinkIn} (orderly : f.Orderly s (.uplinkRx fw pkt inp)) :
  f.Carried s.conntrack (processUplinkRx maps fw s pkt inp).2.2.conntrack := by
  unfold processUplinkRx
  split
  · rcases processUplink_cases maps fw s pkt inp with
      ⟨_, _, same, _⟩ | ⟨relay, tap, mac, isLb, peer, p, routed, admits⟩
    · rw [same]
      exact Carried.refl _
    · rw [admits]
      rcases admitUplink_cases maps fw s p inp relay tap mac isLb peer with
        ⟨_, ct, checked, dropped⟩ | ⟨_, _, _, _, _, _, admitted⟩
      · rw [dropped]
        rcases uplinkIngressFirewall_cases fw s.conntrack p inp.vni tap with
          ⟨_, unkeyed⟩ | ⟨key, keyed, ⟨refused, _, result⟩ | ⟨_, _, result⟩ | ⟨_, _, _, result⟩⟩
        · rw [unkeyed] at checked
          cases checked
          exact Carried.refl _
        · rw [result] at checked
          cases checked
          have stranger : ¬ f.Owns s.conntrack key := by
            intro owned
            exact absurd ((orderly.1 relay tap mac isLb peer p key routed keyed owned).symm.trans refused) (by decide)
          split
          · exact carried_forgetFlow stranger
          · exact Carried.refl _
        · rw [result] at checked
          cases checked
        · rw [result] at checked
          cases checked
      · rw [admitted]
        simp only [Flows.admitted]
        split
        · exact Carried.refl _
        · exact carried_trackFlow _ _ _ _ _
  next key e found =>
    split
    next =>
      -- a NAT64 return refreshes the entry it was found by
      have same : (returnNat64 maps fw s pkt inp key e).2.2.conntrack
        = s.conntrack.insert key (refreshed pkt ethLen e inp.now fw.epoch) := by
        unfold returnNat64
        dsimp only
        split <;> rfl
      rw [same]
      obtain ⟨_, _, held, _⟩ := natReturnEntry_cases found
      exact carried_insert held (refreshed_xlation pkt ethLen e inp.now fw.epoch)
    · exact Carried.refl _

lemma carried_step {op : NodeOp} (orderly : f.Orderly s op) : f.Carried s.conntrack (Flows.step maps s op).conntrack := by
  cases op with
  | guestTx fw pkt inp => exact carried_guestTx nonzero orderly
  | uplinkRx fw pkt inp => exact carried_uplinkRx orderly
  | sweep key now =>
    simp only [Flows.step, sweepEntry]
    split
    · exact Carried.refl _
    next e held =>
      split
      next expired =>
        refine carried_erase fun owned => ?_
        rw [orderly owned e held] at expired
        cases expired
      · exact Carried.refl _

omit nonzero in
variable (f) in
def Pinned (p : UInt16) (ct : Conntrack) : Prop :=
  ∃ e, ct.lookup f.key = some e /\ e.flags &&& ctFSrcNat ≠ 0 /\ e.xlatePort = p

omit nonzero in
lemma Pinned.unique {p q : UInt16} (one : f.Pinned p ct) (two : f.Pinned q ct) : p = q := by
  obtain ⟨e, held, _, rfl⟩ := one
  obtain ⟨e', held', _, rfl⟩ := two
  rw [held] at held'
  cases held'
  rfl

omit nonzero in
lemma Pinned.carried {p : UInt16} (pinned : f.Pinned p ct) (carried : f.Carried ct ct') : f.Pinned p ct' := by
  obtain ⟨e, held, natted, rfl⟩ := pinned
  obtain ⟨e', held', same⟩ := carried.kept f.key (.inl rfl) e held natted
  have flags : e'.flags = e.flags := congrArg (fun x => x.1) same
  exact ⟨e', held', by rw [flags]; exact natted, congrArg (fun x => x.2.2) same⟩

lemma frame_translated (frame : f.Frame pkt inp.port.vni) (sent : (processGuestTx maps fw s pkt inp).1.action ≠ .drop) :
  ∃ p, f.Pinned p (processGuestTx maps fw s pkt inp).2.2.conntrack /\
    f.Translated p (processGuestTx maps fw s pkt inp).2.1 := by
  have vni : inp.port.vni = f.key.vni := (ctKey_vni frame.keyed).symm
  have read := readDst_of_ctKey frame.keyed
  obtain ⟨hdr, header⟩ := readArray_of_within (n := 20) pkt ethLen (by have within := readArray_le pkt _ read; omega)
  have covers : SnatCovers maps pkt inp.port.vni f.binding.natIpv4 := by
    cases ports : l4Ports pkt ethLen with
    | none =>
      -- a packet without ports has no source port but 0
      have keyed := frame.keyed
      simp only [ctKey, ports, bind_eq_bind, bind_eq_some_iff] at keyed
      obtain ⟨_, _, _, _, same⟩ := keyed
      exact absurd (congrArg CtKey.srcPort (some.inj same)).symm nonzero
    | some found =>
      obtain ⟨proto, sport, dport⟩ := found
      have keyed := ctKey_of_header header ports inp.port.vni
      rw [addrAt_source, addrAt_dest, frame.keyed] at keyed
      have key : f.key = ⟨inp.port.vni, addrAt hdr 12, addrAt hdr 16, sport, dport, proto⟩ :=
        some.inj keyed
      have bound := f.bound
      rw [key] at bound
      refine .inr ⟨hdr, f.binding, header, bound, f.range, fun proto' sport' dport' same => ?_⟩
      rw [ports] at same
      cases same
      have window := frame.window
      rw [header, show f.key.proto = proto from congrArg CtKey.proto key] at window
      exact ⟨rfl, frame.whole, by simpa using window⟩
  rcases noLeak_of_covers read (by rw [vni]; exact f.routed) f.external covers fw s with
    dropped | ⟨source, key, e, keyed, held, natted, port⟩ | ⟨key, d, keyed, noted, _⟩
  · exact absurd dropped sent
  · rw [frame.keyed] at keyed
    cases keyed
    exact ⟨e.xlatePort, ⟨e, held, natted, rfl⟩, source, port⟩
  · rw [frame.keyed] at keyed
    cases keyed
    rw [f.unbalanced] at noted
    cases noted

lemma reply_delivered {inp : UplinkIn} {p : UInt16} (backed : f.Backed s.conntrack)
  (pinned : f.Pinned p s.conntrack) (reply : f.ReplyTo p pkt inp.vni)
  (orderly : f.Orderly s (.uplinkRx fw pkt inp)) :
  f.Delivered (processUplinkRx maps fw s pkt inp) := by
  obtain ⟨vni, hdr, sport, whole, natIp⟩ := reply
  obtain ⟨e, held, natted, rfl⟩ := pinned
  obtain ⟨r, there, returns⟩ := backed e held natted
  have flags : r.flags = ctRewriteDst ||| ctFSrcNat := congrArg (fun x => x.1) returns
  have addr : r.xlateIp = f.key.srcIp := congrArg (fun x => x.2.1) returns
  have port : r.xlatePort = f.key.srcPort := congrArg (fun x => x.2.2) returns
  have unclaimed : lbSelectForward pkt maps ethLen inp.vni = none := by
    have dst := addrAt_header whole.header 16 (by decide)
    have src := addrAt_header whole.header 12 (by decide)
    have served : ¬ f.key.proto = 1 := by
      rcases f.proto with tcp | udp
      · rw [tcp]
        decide
      · rw [udp]
        decide
    simp only [lbSelectForward, dst, src, whole.ports, bind_eq_bind, bind_some, if_neg served]
    rw [natIp, vni, f.unserved, bind_none]
  have back : r.flags &&& ctRewriteSrc = 0 /\ r.flags &&& ctRewriteDst ≠ 0 := by
    rw [flags]
    decide
  obtain ⟨q, result, _, dst, _, ports⟩ := whole.delivered (e := r) (s := s)
    (orderly.2 hdr whole.header natIp) back (by rw [natIp, vni]; exact f.registered) unclaimed
    (by rw [natIp, vni]; exact there) (by rw [addr, vni]; exact f.home) f.isLocal (by rw [flags]; decide)
    (by rw [port]; exact nonzero) fw
  refine ⟨by rw [result], ?_, ?_⟩
  · rw [result]
    exact dst.trans (by rw [addr])
  · rw [result]
    change (l4Ports q ethLen).map _ = _
    rw [ports, map_some, port]

omit nonzero in
variable (f) in
def Active (p : UInt16) (gap : Nat) (ops : List NodeOp) : Prop :=
  ∀ first ∈ ops, ∀ last ∈ ops, ∀ t, first.now.toNat <= t -> t + gap <= last.now.toNat ->
    (∃ fw pkt inp, .guestTx fw pkt inp ∈ ops /\ f.Frame pkt inp.port.vni /\ t <= inp.now.toNat /\ inp.now.toNat <= t + gap) /\
    ∃ fw pkt inp, .uplinkRx fw pkt inp ∈ ops /\ f.ReplyTo p pkt inp.vni /\ t <= inp.now.toNat /\ inp.now.toNat <= t + gap

end SnatFlow

open SnatFlow in
theorem snat_flow_keeps_translation (maps : Maps) (f : SnatFlow maps) (nonzero : f.key.srcPort ≠ 0)
  (s : Flows) (fresh : s.conntrack = ∅) (ops : List NodeOp)
  (orderly : Along (Flows.step maps) f.Orderly s ops) : f.KeepsTranslation s ops := by
  have start : f.Backed s.conntrack := by
    intro e held
    rw [fresh] at held
    cases held
  have keepBacked (s : Flows) (op : NodeOp) (held : f.Backed s.conntrack) (good : f.Orderly s op) :
    f.Backed (Flows.step maps s op).conntrack := (carried_step nonzero good).backed held
  have keepPinned (p : UInt16) (s : Flows) (op : NodeOp) (held : f.Pinned p s.conntrack)
    (good : f.Orderly s op) : f.Pinned p (Flows.step maps s op).conntrack :=
    held.carried (carried_step nonzero good)
  have backed (n : Nat) : f.Backed ((ops.take n).foldl (Flows.step maps) s).conntrack :=
    (orderly.take n).invariant keepBacked start
  have later (p : UInt16) {m n : Nat} (le : m <= n) (pinned : f.Pinned p ((ops.take m).foldl (Flows.step maps) s).conntrack) :
    f.Pinned p ((ops.take n).foldl (Flows.step maps) s).conntrack :=
    orderly.persists (keepPinned p) le pinned
  have sends (i : Nat) (out : Pkt) (sent : f.Sends s ops i out) :
    ∃ p, f.Pinned p ((ops.take (i + 1)).foldl (Flows.step maps) s).conntrack /\ f.Translated p out := by
    obtain ⟨fw, pkt, inp, here, frame, passed, rfl⟩ := sent
    rw [List.take_add_one, here, List.foldl_append]
    exact frame_translated nonzero frame passed
  by_cases pinned : ∃ n p, f.Pinned p ((ops.take n).foldl (Flows.step maps) s).conntrack
  · obtain ⟨n, p, pinned⟩ := pinned
    have same (i : Nat) (q : UInt16) (there : f.Pinned q ((ops.take i).foldl (Flows.step maps) s).conntrack) : q = p := by
      rcases Nat.le_total i n with before | after
      · exact (later q before there).unique pinned
      · exact there.unique (later p after pinned)
    refine ⟨p, fun i out sent => ?_, fun i out j fw pkt inp sent before here reply => ?_⟩
    · obtain ⟨q, there, translated⟩ := sends i out sent
      rw [<- same (i + 1) q there]
      exact translated
    · obtain ⟨q, there, _⟩ := sends i out sent
      rw [same (i + 1) q there] at there
      exact reply_delivered nonzero (backed j) (later p before there) reply (orderly.at_step here)
  · refine ⟨0, fun i out sent => ?_, fun i out _ _ _ _ sent => ?_⟩
    · obtain ⟨p, there, _⟩ := sends i out sent
      exact absurd ⟨i + 1, p, there⟩ pinned
    · obtain ⟨p, there, _⟩ := sends i out sent
      exact absurd ⟨i + 1, p, there⟩ pinned

def Maps.natted : Maps := { Maps.outward onePort ∅ with
  route4 := fun _ dst => if dst = guestAddr then none else some ⟨0, Octets.zero 16, 1⟩
  ifaces := fun _ ip => if ip = guestAddr then some ⟨9, 1, Vector.replicate 6 0, 0⟩ else none
  isNatIp := fun _ ip => ip == natAddr }

def nattedFlow : SnatFlow Maps.natted where
  key := dnsFlow 0x1301
  binding := ⟨natAddr, 1024, 1025⟩
  guest := ⟨9, 1, Vector.replicate 6 0, 0⟩
  route := ⟨0, Octets.zero 16, 1⟩
  proto := .inr rfl
  bound := Finmap.lookup_insert _
  range := by decide
  home := rfl
  isLocal := by decide
  unbalanced := rfl
  routed := rfl
  external := by decide
  registered := by decide
  unserved := fun _ => rfl
  foreign := nofun
  outside := by
    intro dst route iv routed _ there
    by_cases guest : dst = guestAddr
    · simp [Maps.natted, guest] at routed
    · change (if dst = guestAddr then _ else none) = some iv at there
      rw [if_neg guest] at there
      cases there

def dnsFrame : Pkt := List.replicate 12 0 ++ [8, 0] ++ dnsQuery 1

def dnsAnswer : Pkt := List.replicate 12 0 ++ [8, 0] ++
  [0x45, 0, 0, 28, 0, 0, 0, 0, 64, 17, 0, 0, 198, 51, 100, 1, 203, 0, 113, 1, 0, 53, 4, 0, 0, 8, 0, 0]

lemma dnsFrame_frame : nattedFlow.Frame dnsFrame 5 := ⟨by decide, by decide, by decide⟩

lemma dnsAnswer_reply : nattedFlow.ReplyTo 1024 dnsAnswer 5 := by
  obtain ⟨hdr, header⟩ := readArray_of_within (n := 20) dnsAnswer ethLen (by decide)
  have first : hdr[0] = 0x45 :=
    mem_unique (readArray_byte dnsAnswer ethLen header 0 (by decide)) (by decide)
  have dst : addrAt hdr 16 = natAddr :=
    mem_unique (addrAt_header header 16 (by decide)) (by decide)
  refine ⟨rfl, hdr, 53, ⟨header, by decide, ?_, ?_, (absurd · (by decide))⟩, dst⟩
  · rw [ihl, first]
    decide
  · rw [l4Start, ihl, first]
    decide

def sendAt (now : UInt64) : NodeOp := .guestTx (open.steady 0) dnsFrame { natGuest with now }

def answerAt (now : UInt64) : NodeOp :=
  .uplinkRx (open.steady 0) dnsAnswer ⟨5, ⟨1, Vector.replicate 6 0, Octets.zero 16⟩, now⟩

-- Two rounds of the flow; a sweep in between looks at both of its entries.
def sweptFlow : List NodeOp := [sendAt 0, answerAt 20000000000, .sweep (dnsFlow 0x1301) 25000000000,
  .sweep (revKey 5 natAddr 1024 17) 25000000000, sendAt 29000000000, answerAt 29500000000]

lemma sendAt_orderly (s : Flows) (now : UInt64) : nattedFlow.Orderly s (sendAt now) := by
  intro _ _ _
  have accepted : fwClassify dnsFrame (open.steady 0).first.v4 ethLen natGuest.srcIfindex fwDirEgress = fwActionAccept := by
    decide +kernel
  exact accepted

lemma answerAt_orderly (s : Flows) (now : UInt64) : nattedFlow.Orderly s (answerAt now) := by
  refine ⟨fun relay tap mac isLb peer p key routed => ?_, fun hdr header _ => ?_⟩
  · have dropped : (uplinkRoute Maps.natted dnsAnswer
      ⟨5, ⟨1, Vector.replicate 6 0, Octets.zero 16⟩, now⟩).2.1 = .drop := rfl
    rw [routed] at dropped
    cases dropped
  · have first : hdr[0] = 0x45 :=
      mem_unique (readArray_byte dnsAnswer ethLen header 0 (by decide)) (by decide)
    rw [ihl, first]
    decide

lemma sweep_unexpired {s : Flows} {key : CtKey} {now : UInt64}
  (fresh : (s.conntrack.lookup key).all (fun e => !ctIsExpired e now) = true) : nattedFlow.Orderly s (.sweep key now) := by
  intro _ e held
  rw [held] at fresh
  simpa using fresh

theorem short_flow_keeps_translation : nattedFlow.KeepsTranslation ⟨∅, ∅, ∅, ∅⟩ sweptFlow :=
  snat_flow_keeps_translation Maps.natted nattedFlow (by decide) ⟨∅, ∅, ∅, ∅⟩ rfl sweptFlow
    ⟨sendAt_orderly _ _, answerAt_orderly _ _, sweep_unexpired (by decide +kernel), sweep_unexpired (by decide +kernel),
      sendAt_orderly _ _, answerAt_orderly _ _, trivial⟩

def keptAlive : List NodeOp := [sendAt 0, answerAt 1000000000, sendAt 20000000000, answerAt 21000000000,
  .sweep (dnsFlow 0x1301) 31000000000, .sweep (revKey 5 natAddr 1024 17) 31000000000,
  answerAt 32000000000]

theorem active_flow_loses_translation :
  ¬ ∀ (maps : Maps) (f : SnatFlow maps) (p : UInt16) (gap : Nat) (s : Flows) (ops : List NodeOp),
    s.conntrack = ∅ -> DisjointRanges maps.nat -> (ops.map NodeOp.now).Pairwise (· <= ·) ->
    gap < 30000000000 -> f.Active p gap ops -> f.KeepsTranslation s ops := by
  intro claimed
  have active : nattedFlow.Active 1024 25000000000 keptAlive := by
    intro first _ last there t _ inside
    have ends : ∀ op ∈ keptAlive, op.now.toNat <= 32000000000 := by decide
    have bound := ends last there
    -- the frame of 20 s and the answer of 21 s are in every interval of 25 s
    have sent : (20000000000 : UInt64).toNat = 20000000000 := rfl
    have answered : (21000000000 : UInt64).toNat = 21000000000 := rfl
    refine ⟨⟨_, _, { natGuest with now := 20000000000 }, List.mem_of_getElem? (i := 2) rfl, dnsFrame_frame,
        ?_, ?_⟩, ⟨_, _, ⟨5, ⟨1, Vector.replicate 6 0, Octets.zero 16⟩, 21000000000⟩,
        List.mem_of_getElem? (i := 3) rfl, dnsAnswer_reply, ?_, ?_⟩⟩ <;> dsimp only <;> omega
  obtain ⟨p, translated, delivered⟩ := claimed Maps.natted nattedFlow 1024 25000000000 ⟨∅, ∅, ∅, ∅⟩ keptAlive rfl
    onePort_disjoint (by decide) (by decide) active
  have sends : nattedFlow.Sends ⟨∅, ∅, ∅, ∅⟩ keptAlive 0
    (processGuestTx Maps.natted (open.steady 0) ⟨∅, ∅, ∅, ∅⟩ dnsFrame natGuest).2.1 :=
    ⟨_, _, _, rfl, dnsFrame_frame, by decide +kernel, rfl⟩
  have port : carriedPort (processGuestTx Maps.natted (open.steady 0) ⟨∅, ∅, ∅, ∅⟩ dnsFrame natGuest).2.1
      = some 1024 := by decide +kernel
  have pinned : p = 1024 := some.inj ((translated 0 _ sends).2.symm.trans port)
  subst pinned
  have home := (delivered 0 _ 6 _ _ _ sends (by decide) rfl dnsAnswer_reply).1
  have lost : (processUplinkRx Maps.natted (open.steady 0)
    ((keptAlive.take 6).foldl (Flows.step Maps.natted) ⟨∅, ∅, ∅, ∅⟩) dnsAnswer
    ⟨5, ⟨1, Vector.replicate 6 0, Octets.zero 16⟩, 32000000000⟩).1.action = .drop := by decide +kernel
  rw [lost] at home
  cases home

end Ectobase.Flowplane
