import Ectobase.Flowplane.FwEquivalence

namespace Ectobase.Flowplane

open Shared

structure Programmed6 (maps : FwMaps6) (scope : Scope) : Prop where
  classes : ∀ addr, ClassTrie scope.v6.classes addr (maps.fwClass6 scope.id addr)
  policy : ∀ key, PolicyTrie scope.v6.policy key (maps.fwPolicy6 scope.id key)

def BoundTo6 (maps : FwMaps6) (ifindex : UInt32) (dir : UInt8) : Option Scope -> Prop
  | none => ∃ bind, maps.fwBind ifindex = some bind /\ bind.scope dir = fwScopeNone
  | some scope => ∃ bind, maps.fwBind ifindex = some bind /\ bind.scope dir = scope.id /\ Programmed6 maps scope

-- Type and code are cut to a byte: the sentinel of an unreadable one reads 255.
def narrowed {n : Nat} (s : PacketSelectors n) : PacketSelectors n :=
  { s with icmpType := s.icmpType.toUInt8.toUInt16, icmpCode := s.icmpCode.toUInt8.toUInt16 }

lemma polSuffix_narrowed {n : Nat} (icmpProto : UInt8) (s : PacketSelectors n) :
  polSuffix icmpProto (narrowed s) = polSuffix icmpProto s := by
  simp only [polSuffix, narrowed, fwPolSuffix, UInt8.toUInt8_toUInt16]
  rfl

lemma matches_narrowed_field {want have_ : UInt16} (byte : ByteOrSentinel have_)
  (hit : (want == 0xffff || have_ == want) = true) :
  (want == 0xffff || have_.toUInt8.toUInt16 == want) = true := by
  rcases byte with rfl | ⟨b, rfl⟩
  next =>
    -- an unreadable byte is matched by the wildcard only
    have wild : want = 0xffff := by
      rcases Bool.or_eq_true_iff.mp hit with any | same
      · exact beq_iff_eq.mp any
      · exact (beq_iff_eq.mp same).symm
    simp [wild]
  · simpa using hit

lemma ruleMatches_narrowed {n : Nat} (icmpProto : UInt8) (r : Rule n) (s : PacketSelectors n)
  (type : ByteOrSentinel s.icmpType) (code : ByteOrSentinel s.icmpCode)
  (hit : ruleMatches icmpProto r s = true) : ruleMatches icmpProto r (narrowed s) = true := by
  rw [ruleMatches_iff] at hit ⊢
  obtain ⟨enabled, proto, src, dst, l4⟩ := hit
  refine ⟨enabled, proto, src, dst, ?_⟩
  unfold l4Matches at l4 ⊢
  split
  next ports =>
    rw [if_pos (show s.proto = 6 \/ s.proto = 17 from ports)] at l4
    exact l4
  next other =>
    rw [if_neg (show ¬ (s.proto = 6 \/ s.proto = 17) from other)] at l4
    split
    next icmp =>
      rw [if_pos (show s.proto = icmpProto from icmp), Bool.and_eq_true] at l4
      rw [Bool.and_eq_true]
      exact ⟨matches_narrowed_field type l4.1, matches_narrowed_field code l4.2⟩
    · rfl

lemma compileScope_none6 (dir : UInt8) (v4 : List FwRule) (v6 : List FwRule6)
  (compiled : compileScope dir v4 v6 = .ok none) : liveRules dir v6 = [] := by
  obtain ⟨p4, p6, _, parsed, _, empty⟩ := compileScope_ok dir v4 v6 none compiled
  have live := parseAll_live 58 dir (by decide) (by decide) (by decide) v6 p6 parsed
  rw [empty] at live
  exact List.forall₂_nil_right_iff.mp live

lemma fwClassify6_unreadable (pkt : Pkt) (maps : FwMaps6) (ipOff : Nat) (ifindex : UInt32) (dir : UInt8)
  (missing : pkt.readArray 16 (ipOff + if dir = fwDirEgress then 24 else 8) = none) :
  fwClassify6 pkt maps ipOff ifindex dir = fwActionDrop := by
  unfold fwClassify6
  split
  · rfl
  next bind _ =>
    simp only [missing]
    split <;> rfl

section

variable (rules : List FwRule) (rules6 : List FwRule6) (dir : UInt8) (scope : Option Scope)
  (compiled : compileScope dir rules rules6 = .ok scope) (maps : FwMaps6) (ifindex : UInt32)
  (bound : BoundTo6 maps ifindex dir scope) (pkt : Pkt) (ipOff : Nat)

include compiled bound

lemma fwClassify6_greatest (src dst : Vector UInt8 16)
  (readable : pkt.readArray 16 (ipOff + if dir = fwDirEgress then 24 else 8) =
    some (peerOf dir (selectors6 pkt ipOff src dst))) :
  ∃ found, GreatestOf (matchPrecedences 58 dir rules6 (narrowed (selectors6 pkt ipOff src dst))) found /\
    fwClassify6 pkt maps ipOff ifindex dir = verdictOf found := by
  cases scope with
  | none =>
    obtain ⟨bind, binding, unbound⟩ := bound
    have live := compileScope_none6 dir rules rules6 compiled
    refine ⟨none, ?_, ?_⟩
    · simp [GreatestOf, matchPrecedences, live]
    · simp [fwClassify6, binding, unbound, verdictOf]
  | some scope =>
    obtain ⟨bind, binding, named, programmed⟩ := bound
    obtain ⟨p4, p6, _, parsed, _, family, id⟩ := compileScope_ok dir rules rules6 _ compiled
    have nonzero : scope.id ≠ fwScopeNone := id ▸ scopeId_ne_none scope.v4 scope.v6
    have sel := hitPrecedences_eq 58 dir (by decide) (by decide) (by decide) rules6 p6 parsed
      (narrowed (selectors6 pkt ipOff src dst)) (fun _ => ⟨_, _, rfl, rfl⟩)
    rw [polSuffix_narrowed] at sel
    refine ⟨_, sel ▸ compileFamily_greatest p6 "IPv6" scope.v6 family (maps.fwPolicy6 scope.id)
      programmed.policy _ _ _ _ (programmed.classes _), ?_⟩
    rw [<- fwProbeVerdict_eq]
    simp only [fwClassify6, binding, named, if_neg nonzero, readable]
    rfl

end

def FirstMatchDecides6 (rules : List FwRule6) (dir : UInt8) (pkt : Pkt) (ipOff : Nat) : Prop :=
  match pkt.readArray 16 (ipOff + 8), pkt.readArray 16 (ipOff + 24) with
  | some src, some dst =>
    let sel := selectors6 pkt ipOff src dst
    match rules.find? fun r => r.direction == dir && fwRule6Matches r sel with
    | some first =>
      (first.action = fwActionDrop \/ first.action = fwActionAccept) /\
        Decisive 58 dir rules (narrowed sel) (first.action == fwActionAccept)
    -- An unreadable type or code reads 255 in the policy key, which a rule may name.
    | none => ¬ Decisive 58 dir rules (narrowed sel) true
  -- Truncated between the two addresses: the list drops, the ingress classifier reads the source.
  | some src, none =>
    dir ≠ fwDirEgress -> ¬ Decisive 58 dir rules (narrowed (selectors6 pkt ipOff src (Vector.replicate 16 0))) true
  | none, _ => True

theorem fwClassify6_eq_firstMatch6_iff (rules : List FwRule) (rules6 : List FwRule6) (dir : UInt8)
  (scope : Option Scope) (compiled : compileScope dir rules rules6 = .ok scope) (maps : FwMaps6)
  (ifindex : UInt32) (bound : BoundTo6 maps ifindex dir scope) (pkt : Pkt) (ipOff : Nat) :
  fwClassify6 pkt maps ipOff ifindex dir = firstMatch6 pkt ipOff rules6 dir ↔ FirstMatchDecides6 rules6 dir pkt ipOff := by
  have classify := fwClassify6_greatest rules rules6 dir scope compiled maps ifindex bound pkt ipOff
  unfold FirstMatchDecides6 firstMatch6
  cases readSrc : pkt.readArray 16 (ipOff + 8) with
  | none =>
    have short := (Pkt.readArray_eq_none pkt 16 (ipOff + 8)).mp readSrc
    have readDst := (Pkt.readArray_eq_none pkt 16 (ipOff + 24)).mpr (by omega)
    refine iff_of_true ?_ trivial
    apply fwClassify6_unreadable
    split
    · exact readDst
    · exact readSrc
  | some src =>
    cases readDst : pkt.readArray 16 (ipOff + 24) with
    | none =>
      by_cases egress : dir = fwDirEgress
      · refine iff_of_true ?_ fun ingress => absurd egress ingress
        exact fwClassify6_unreadable pkt maps ipOff ifindex dir (by rw [if_pos egress, readDst])
      · obtain ⟨found, greatest, verdict⟩ := classify src (Vector.replicate 16 0)
          (by rw [if_neg egress, readSrc, peerOf, if_neg egress]; rfl)
        rw [verdict, verdictOf_eq_drop_iff 58 dir rules6 _ found greatest]
        exact ⟨fun quiet _ => quiet, fun quiet => quiet egress⟩
    | some dst =>
      obtain ⟨found, greatest, verdict⟩ := classify src dst (by
        rw [peerOf]
        split
        · exact readDst
        · exact readSrc)
      simp only [fwRule6Matches, find?_liveRules]
      cases hit : (liveRules dir rules6).find? fun r =>
          ruleMatches 58 r (selectors6 pkt ipOff src dst) with
      | none => rw [verdict, verdictOf_eq_drop_iff 58 dir rules6 _ found greatest]
      | some first =>
        -- what the list's rule matches, the narrowed selectors match too
        have bytes := icmpTypeCodeV6_bytes pkt ipOff
        have matched := ruleMatches_narrowed 58 first _ bytes.1 bytes.2 (List.find?_eq_some_iff_getElem.mp hit).1
        rw [verdict, verdictOf_eq_action_iff 58 dir rules6 _ found greatest first (List.mem_of_find?_eq_some hit) matched]

def mapsOf6 (scope : Scope) : FwMaps6 where
  fwBind _ := some { ingressScope := scope.id, egressScope := scope.id }
  fwClass6 _ addr := classLpm scope.v6.classes addr
  fwPolicy6 _ key := policyLpm scope.v6.policy key

lemma mapsOf6_boundTo (scope : Scope) (ifindex : UInt32) (dir : UInt8) :
  BoundTo6 (mapsOf6 scope) ifindex dir (some scope) := by
  refine ⟨_, rfl, ?_, classLpm_classTrie scope.v6.classes, policyLpm_policyTrie scope.v6.policy⟩
  simp [FwBind.scope]

def allowIcmp (type : UInt16) : FwRule6 where
  srcIp := Vector.replicate 16 0
  srcMask := Vector.replicate 16 0
  dstIp := Vector.replicate 16 0
  dstMask := Vector.replicate 16 0
  srcPortMin := 0
  srcPortMax := 65535
  dstPortMin := 0
  dstPortMax := 65535
  icmpType := type
  icmpCode := 0xffff
  proto := 58
  action := fwActionAccept
  direction := fwDirIngress
  enabled := 1

def allowIcmpScope (type : UInt8) : Scope :=
  let tries : ScopeTries 16 :=
    { classes := [], policy := [(48, { cls := 0, proto := 58, port := (type, 0) }, 0xffffff01)] }
  { id := scopeId ⟨[], []⟩ tries, v4 := ⟨[], []⟩, v6 := tries }

lemma compileScope_allowIcmp : compileScope fwDirIngress [] [allowIcmp 255] = .ok (some (allowIcmpScope 255)) := by
  decide +kernel

def bareIcmp : Pkt := List.replicate 6 0 ++ [58] ++ List.replicate 33 0

theorem fwClassify6_accepts_truncated : compileScope fwDirIngress [] [allowIcmp 255] = .ok (some (allowIcmpScope 255)) /\
    BoundTo6 (mapsOf6 (allowIcmpScope 255)) 7 fwDirIngress (some (allowIcmpScope 255)) /\
    (fwClassify6 bareIcmp (mapsOf6 (allowIcmpScope 255)) 0 7 fwDirIngress = fwActionAccept /\
      firstMatch6 bareIcmp 0 [allowIcmp 255] fwDirIngress = fwActionDrop) /\
    fwClassify6 (bareIcmp.take 24) (mapsOf6 (allowIcmpScope 255)) 0 7 fwDirIngress = fwActionAccept /\
      firstMatch6 (bareIcmp.take 24) 0 [allowIcmp 255] fwDirIngress = fwActionDrop :=
  ⟨compileScope_allowIcmp, mapsOf6_boundTo _ _ _, by decide +kernel, by decide +kernel, by decide +kernel⟩

theorem firstMatchDecides6_whole_header : FirstMatchDecides6 [allowIcmp 255] fwDirIngress (bareIcmp ++ [255, 3]) 0 :=
  (fwClassify6_eq_firstMatch6_iff [] [allowIcmp 255] fwDirIngress (some (allowIcmpScope 255))
    compileScope_allowIcmp (mapsOf6 (allowIcmpScope 255)) 7 (mapsOf6_boundTo _ _ _)
    (bareIcmp ++ [255, 3]) 0).mp (by decide +kernel)

end Ectobase.Flowplane
