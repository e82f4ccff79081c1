import Ectobase.Flowplane.FwParse

namespace Ectobase.Flowplane

open Shared
open List hiding Vector

variable {n : Nat}

def liveRules (dir : UInt8) (rules : List (Rule n)) : List (Rule n) :=
  rules.filter fun r => decide (r.direction = dir /\ CanMatch r)

variable (icmpProto dir : UInt8)

lemma parseAll_live (icmpTcp : icmpProto ≠ 6) (icmpUdp : icmpProto ≠ 17)
  (icmpAny : icmpProto ≠ 0) (rules : List (Rule n)) (ps : List (Parsed n))
  (ok : parseAll icmpProto dir rules = .ok ps) :
  List.Forall₂ (fun r p => parse (view r) dir icmpProto = .ok (some p)) (liveRules dir rules)
    ps := by
  induction rules generalizing ps with
  | nil =>
    rw [parseAll, Except.ok.injEq] at ok
    subst ok
    exact .nil
  | cons r rest ih =>
    rw [parseAll] at ok
    split at ok
    next same =>
      cases head : parse (view r) dir icmpProto with
      | error e => simp [head, bind, Except.bind] at ok
      | ok parsed =>
        cases tail : parseAll icmpProto dir rest with
        | error e => simp [head, tail, bind, Except.bind] at ok
        | ok others =>
          simp only [head, tail, bind, Except.bind, pure, Except.pure, Except.ok.injEq] at ok
          subst ok
          have spec := parse_ok icmpProto dir r icmpTcp icmpUdp icmpAny parsed head
          cases parsed with
          | none =>
            have drop : liveRules dir (r :: rest) = liveRules dir rest := by
              simp [liveRules, spec]
            simpa [drop] using ih others tail
          | some p =>
            have keep : liveRules dir (r :: rest) = r :: liveRules dir rest := by
              simp [liveRules, same, spec.1]
            rw [keep]
            exact .cons head (ih others tail)
    next other =>
      have drop : liveRules dir (r :: rest) = liveRules dir rest := by
        simp [liveRules, other]
      rw [drop]
      exact ih ps ok

def matchPrecedences (icmpProto dir : UInt8) (rules : List (Rule n)) (s : PacketSelectors n) : Set Nat :=
  {p | ∃ i r, (liveRules dir rules)[i]? = some r /\ ruleMatches icmpProto r s = true /\
    fwPrecedence i (r.action == fwActionAccept) = p}

lemma hitPrecedences_eq (icmpTcp : icmpProto ≠ 6) (icmpUdp : icmpProto ≠ 17) (icmpAny : icmpProto ≠ 0) (rules : List (Rule n))
  (ps : List (Parsed n)) (ok : parseAll icmpProto dir rules = .ok ps) (s : PacketSelectors n)
  (bytes : s.proto = icmpProto -> ∃ t c : UInt8, s.icmpType = t.toUInt16 /\ s.icmpCode = c.toUInt16) :
  hitPrecedences ps (peerOf dir s) s.proto (polSuffix icmpProto s) = matchPrecedences icmpProto dir rules s := by
  have live := parseAll_live icmpProto dir icmpTcp icmpUdp icmpAny rules ps ok
  obtain ⟨sameLength, pointwise⟩ := forall₂_iff_get.mp live
  have rule (i : Nat) (hr : i < (liveRules dir rules).length) (hp : i < ps.length) :=
    parse_ok icmpProto dir _ icmpTcp icmpUdp icmpAny _ (pointwise i hr hp)
  ext prec
  constructor
  · rintro ⟨⟨p, i⟩, member, hit, rfl⟩
    rw [mem_zipIdx_iff_getElem?] at member
    obtain ⟨hp, found⟩ := List.getElem?_eq_some_iff.mp member
    have hr : i < (liveRules dir rules).length := by omega
    obtain ⟨_, allow, hits⟩ := rule i hr hp
    simp only [get_eq_getElem, found] at allow hits
    exact ⟨i, _, getElem?_eq_getElem hr, (hits s bytes).mpr hit, by rw [<- allow]⟩
  · rintro ⟨i, r, found, hit, rfl⟩
    obtain ⟨hr, rfl⟩ := List.getElem?_eq_some_iff.mp found
    have hp : i < ps.length := by omega
    obtain ⟨_, allow, hits⟩ := rule i hr hp
    simp only [get_eq_getElem] at allow hits
    refine ⟨(ps[i], i), mem_zipIdx_iff_getElem?.mpr (getElem?_eq_getElem hp), (hits s bytes).mp hit, ?_⟩
    rw [allow]

def Decisive (icmpProto dir : UInt8) (rules : List (Rule n)) (s : PacketSelectors n) (accept : Bool) : Prop :=
  ∃ i r, (liveRules dir rules)[i]? = some r /\ ruleMatches icmpProto r s = true /\ (r.action == fwActionAccept) = accept /\
    ∀ j q, (liveRules dir rules)[j]? = some q -> ruleMatches icmpProto q s = true ->
      (q.action == fwActionAccept) ≠ accept -> fwPrecedence j (!accept) < fwPrecedence i accept

lemma decisive_iff (rules : List (Rule n)) (s : PacketSelectors n)
  (p : Nat) (greatest : GreatestOf (matchPrecedences icmpProto dir rules s) (some p))
  (accept : Bool) :
  Decisive icmpProto dir rules s accept ↔ fwPrecedenceAllows p = accept := by
  obtain ⟨⟨top, t, found, hit, rfl⟩, bound⟩ := greatest
  rw [fwPrecedenceAllows_fwPrecedence]
  have flip {x : Bool} (other : x ≠ accept) : x = !accept := by
    cases accept <;> simp_all
  constructor
  · rintro ⟨i, r, foundR, hitR, verdict, outranks⟩
    by_contra other
    have below := outranks top t found hit other
    have above := bound ⟨i, r, foundR, hitR, rfl⟩
    rw [verdict, flip other] at above
    omega
  · intro verdict
    refine ⟨top, t, found, hit, verdict, fun j q foundQ hitQ other => ?_⟩
    have le := bound ⟨j, q, foundQ, hitQ, rfl⟩
    rw [verdict, flip other] at le
    apply Nat.lt_of_le_of_ne le
    intro same
    have verdicts := congrArg fwPrecedenceAllows same
    simp at verdicts

structure Programmed (maps : FwMaps) (scope : Scope) : Prop where
  classes : ∀ addr, ClassTrie scope.v4.classes addr (maps.fwClass4 scope.id addr)
  policy : ∀ key, PolicyTrie scope.v4.policy key (maps.fwPolicy4 scope.id key)

def BoundTo (maps : FwMaps) (ifindex : UInt32) (dir : UInt8) : Option Scope -> Prop
  | none => ∃ bind, maps.fwBind ifindex = some bind /\ bind.scope dir = fwScopeNone
  | some scope => ∃ bind, maps.fwBind ifindex = some bind /\ bind.scope dir = scope.id /\ Programmed maps scope

def verdictOf : Option Nat -> UInt8
  | some p => if fwPrecedenceAllows p then fwActionAccept else fwActionDrop
  | none => fwActionDrop

lemma fwProbeVerdict_eq (specific any : Option Nat) : fwProbeVerdict specific any = verdictOf (optionMax specific any) := by
  cases specific <;> cases any <;> rfl

lemma compileScope_none (dir : UInt8) (v4 : List FwRule) (v6 : List FwRule6)
  (compiled : compileScope dir v4 v6 = .ok none) : liveRules dir v4 = [] := by
  obtain ⟨p4, p6, parsed, _, empty, _⟩ := compileScope_ok dir v4 v6 none compiled
  have live := parseAll_live 1 dir (by decide) (by decide) (by decide) v4 p4 parsed
  rw [empty] at live
  exact forall₂_nil_right_iff.mp live

lemma fwClassify_unreadable (pkt : Pkt) (maps : FwMaps) (ipOff : Nat) (ifindex : UInt32) (dir : UInt8)
  (missing : pkt.readArray 4 (ipOff + if dir = fwDirEgress then 16 else 12) = none) :
  fwClassify pkt maps ipOff ifindex dir = fwActionDrop := by
  unfold fwClassify
  split
  · rfl
  next bind _ =>
    simp only [missing]
    split <;> rfl

section

variable (rules : List FwRule) (rules6 : List FwRule6) (dir : UInt8) (scope : Option Scope)
  (compiled : compileScope dir rules rules6 = .ok scope) (maps : FwMaps) (ifindex : UInt32)
  (bound : BoundTo maps ifindex dir scope) (pkt : Pkt) (ipOff : Nat)

include compiled bound

lemma fwClassify_greatest (src dst : Vector UInt8 4)
  (readable : pkt.readArray 4 (ipOff + if dir = fwDirEgress then 16 else 12) =
    some (peerOf dir (selectors pkt ipOff src dst))) :
  ∃ found, GreatestOf (matchPrecedences 1 dir rules (selectors pkt ipOff src dst)) found /\
    fwClassify pkt maps ipOff ifindex dir = verdictOf found := by
  cases scope with
  | none =>
    obtain ⟨bind, binding, unbound⟩ := bound
    have live := compileScope_none dir rules rules6 compiled
    refine ⟨none, ?_, ?_⟩
    · simp [GreatestOf, matchPrecedences, live]
    · simp [fwClassify, binding, unbound, verdictOf]
  | some scope =>
    obtain ⟨bind, binding, named, programmed⟩ := bound
    obtain ⟨p4, p6, parsed, _, family, _, id⟩ := compileScope_ok dir rules rules6 _ compiled
    have nonzero : scope.id ≠ fwScopeNone := id ▸ scopeId_ne_none scope.v4 scope.v6
    obtain ⟨t, c, icmp⟩ := icmpTypeCode_bytes pkt ipOff
    have sel : hitPrecedences p4 (peerOf dir (selectors pkt ipOff src dst))
      (selectors pkt ipOff src dst).proto (polSuffix 1 (selectors pkt ipOff src dst)) =
        matchPrecedences 1 dir rules (selectors pkt ipOff src dst) :=
      hitPrecedences_eq 1 dir (by decide) (by decide) (by decide) rules p4 parsed _
        (fun _ => ⟨t, c, by simp [selectors, icmp], by simp [selectors, icmp]⟩)
    refine ⟨_, sel ▸ compileFamily_greatest p4 "IPv4" scope.v4 family (maps.fwPolicy4 scope.id)
      programmed.policy _ _ _ _ (programmed.classes _), ?_⟩
    rw [<- fwProbeVerdict_eq]
    simp only [fwClassify, binding, named, if_neg nonzero, readable]
    rfl

end

variable (icmpProto dir : UInt8) (rules : List (Rule n)) (s : PacketSelectors n) (found : Option Nat)

lemma find?_liveRules : (rules.find? fun r => r.direction == dir && ruleMatches icmpProto r s) =
    (liveRules dir rules).find? fun r => ruleMatches icmpProto r s := by
  rw [liveRules, find?_filter]
  congr 1
  funext r
  by_cases hit : ruleMatches icmpProto r s = true
  · have live := canMatch_of_ruleMatches icmpProto r s hit
    by_cases same : r.direction = dir <;> simp [hit, live, same]
  · simp [hit]

def FirstMatchDecides (rules : List FwRule) (dir : UInt8) (pkt : Pkt) (ipOff : Nat) : Prop :=
  match pkt.readArray 4 (ipOff + 12), pkt.readArray 4 (ipOff + 16) with
  | some src, some dst =>
    ∀ first, (rules.find? fun r =>
        r.direction == dir && fwRuleMatches r (selectors pkt ipOff src dst)) = some first ->
      (first.action = fwActionDrop \/ first.action = fwActionAccept) /\
        Decisive 1 dir rules (selectors pkt ipOff src dst) (first.action == fwActionAccept)
  -- Truncated between the two addresses: the list drops, the ingress classifier reads the source.
  | some src, none =>
    dir ≠ fwDirEgress -> ¬ Decisive 1 dir rules (selectors pkt ipOff src (Vector.replicate 4 0)) true
  | none, _ => True

lemma verdictOf_eq_drop_iff (greatest : GreatestOf (matchPrecedences icmpProto dir rules s) found) :
  verdictOf found = fwActionDrop ↔ ¬ Decisive icmpProto dir rules s true := by
  cases found with
  | none =>
    refine iff_of_true rfl fun ⟨i, r, member, hit, _⟩ => ?_
    have empty : matchPrecedences icmpProto dir rules s = ∅ := greatest
    exact Set.notMem_empty (fwPrecedence i (r.action == fwActionAccept)) (empty ▸ ⟨i, r, member, hit, rfl⟩)
  | some p =>
    rw [decisive_iff icmpProto dir rules s p greatest true]
    cases verdict : fwPrecedenceAllows p
    · simp [verdictOf, verdict]
    · simp [verdictOf, verdict, fwActionAccept, fwActionDrop]

lemma verdictOf_eq_action_iff (greatest : GreatestOf (matchPrecedences icmpProto dir rules s) found) (first : Rule n)
  (live : first ∈ liveRules dir rules) (matched : ruleMatches icmpProto first s = true) :
  verdictOf found = first.action ↔ (first.action = fwActionDrop \/ first.action = fwActionAccept) /\
      Decisive icmpProto dir rules s (first.action == fwActionAccept) := by
  obtain ⟨i, place⟩ := mem_iff_getElem?.mp live
  have member : fwPrecedence i (first.action == fwActionAccept) ∈
    matchPrecedences icmpProto dir rules s := ⟨i, first, place, matched, rfl⟩
  cases found with
  | none =>
    have empty : matchPrecedences icmpProto dir rules s = ∅ := greatest
    rw [empty] at member
    exact absurd member (Set.notMem_empty _)
  | some p =>
    rw [decisive_iff icmpProto dir rules s p greatest]
    cases verdict : fwPrecedenceAllows p
    · constructor
      · intro same
        have drop : first.action = fwActionDrop := by simpa [verdictOf, verdict] using same.symm
        exact ⟨.inl drop, by rw [drop]; rfl⟩
      · rintro ⟨drop | accept, same⟩
        · simp [verdictOf, verdict, drop]
        · simp [accept] at same
    · constructor
      · intro same
        have accept : first.action = fwActionAccept := by
          simpa [verdictOf, verdict] using same.symm
        exact ⟨.inr accept, by simp [accept]⟩
      · rintro ⟨_, same⟩
        have accept : first.action = fwActionAccept := beq_iff_eq.mp same.symm
        simp [verdictOf, verdict, accept]

theorem fwClassify_eq_firstMatch_iff (rules : List FwRule) (rules6 : List FwRule6) (dir : UInt8)
  (scope : Option Scope) (compiled : compileScope dir rules rules6 = .ok scope) (maps : FwMaps)
  (ifindex : UInt32) (bound : BoundTo maps ifindex dir scope) (pkt : Pkt) (ipOff : Nat) :
  fwClassify pkt maps ipOff ifindex dir = firstMatch pkt ipOff rules dir ↔ FirstMatchDecides rules dir pkt ipOff := by
  have classify := fwClassify_greatest rules rules6 dir scope compiled maps ifindex bound pkt ipOff
  unfold FirstMatchDecides firstMatch
  cases readSrc : pkt.readArray 4 (ipOff + 12) with
  | none =>
    -- The destination lies behind the source, so neither direction has a readable peer.
    have short := (Pkt.readArray_eq_none pkt 4 (ipOff + 12)).mp readSrc
    have readDst := (Pkt.readArray_eq_none pkt 4 (ipOff + 16)).mpr (by omega)
    refine iff_of_true ?_ trivial
    apply fwClassify_unreadable
    split
    · exact readDst
    · exact readSrc
  | some src =>
    cases readDst : pkt.readArray 4 (ipOff + 16) with
    | none =>
      by_cases egress : dir = fwDirEgress
      · refine iff_of_true ?_ fun ingress => absurd egress ingress
        exact fwClassify_unreadable pkt maps ipOff ifindex dir (by rw [if_pos egress, readDst])
      · obtain ⟨found, greatest, verdict⟩ := classify src (Vector.replicate 4 0)
          (by rw [if_neg egress, readSrc, peerOf, if_neg egress]; rfl)
        rw [verdict, verdictOf_eq_drop_iff 1 dir rules _ found greatest]
        exact ⟨fun quiet _ => quiet, fun quiet => quiet egress⟩
    | some dst =>
      obtain ⟨found, greatest, verdict⟩ := classify src dst (by
        rw [peerOf]
        split
        · exact readDst
        · exact readSrc)
      simp only [fwRuleMatches, find?_liveRules]
      cases hit : (liveRules dir rules).find? fun r =>
          ruleMatches 1 r (selectors pkt ipOff src dst) with
      | none =>
        rw [verdict, verdictOf_eq_drop_iff 1 dir rules _ found greatest]
        refine iff_of_true ?_ (by simp)
        rintro ⟨i, r, member, matched, _⟩
        exact find?_eq_none.mp hit r (mem_of_getElem? member) matched
      | some first =>
        rw [verdict, verdictOf_eq_action_iff 1 dir rules _ found greatest first
          (mem_of_find?_eq_some hit) (find?_eq_some_iff_getElem.mp hit).1]
        simp

def mapsOf (scope : Scope) : FwMaps where
  fwBind _ := some { ingressScope := scope.id, egressScope := scope.id }
  fwClass4 _ addr := classLpm scope.v4.classes addr
  fwPolicy4 _ key := policyLpm scope.v4.policy key

lemma mapsOf_boundTo (scope : Scope) (ifindex : UInt32) (dir : UInt8) : BoundTo (mapsOf scope) ifindex dir (some scope) := by
  refine ⟨_, rfl, ?_, classLpm_classTrie scope.v4.classes, policyLpm_policyTrie scope.v4.policy⟩
  simp [FwBind.scope]

def allowAll : FwRule where
  srcIp := Vector.replicate 4 0
  srcMask := Vector.replicate 4 0
  dstIp := Vector.replicate 4 0
  dstMask := Vector.replicate 4 0
  srcPortMin := 0
  srcPortMax := 65535
  dstPortMin := 0
  dstPortMax := 65535
  icmpType := 0xffff
  icmpCode := 0xffff
  proto := 0
  action := fwActionAccept
  direction := fwDirIngress
  enabled := 1

def allowAllScope : Scope where
  id := 13174555935851768357
  v4 := { classes := [], policy := [(32, { cls := 0, proto := 0, port := (0, 0) }, 0xffffff01)] }
  v6 := { classes := [], policy := [] }

lemma compileScope_allowAll : compileScope fwDirIngress [allowAll] [] = .ok (some allowAllScope) := by
  decide +kernel

theorem fwClassify_accepts_truncated : compileScope fwDirIngress [allowAll] [] = .ok (some allowAllScope) /\
    BoundTo (mapsOf allowAllScope) 7 fwDirIngress (some allowAllScope) /\
    fwClassify (replicate 16 0) (mapsOf allowAllScope) 0 7 fwDirIngress = fwActionAccept /\
    firstMatch (replicate 16 0) 0 [allowAll] fwDirIngress = fwActionDrop :=
  ⟨compileScope_allowAll, mapsOf_boundTo _ _ _, by decide +kernel, by decide +kernel⟩

theorem firstMatchDecides_whole_header : FirstMatchDecides [allowAll] fwDirIngress (replicate 20 0) 0 :=
  (fwClassify_eq_firstMatch_iff [allowAll] [] fwDirIngress (some allowAllScope)
    compileScope_allowAll (mapsOf allowAllScope) 7 (mapsOf_boundTo _ _ _)
    (replicate 20 0) 0).mp (by decide +kernel)

end Ectobase.Flowplane
