import Ectobase.Mesh.FirewallCompile
import Mathlib.Data.List.Find

namespace Ectobase.Mesh

open Shared List Option NetPrefix FwEntry

inductive Direction where
  | ingress
  | egress
  deriving DecidableEq, Repr

def FirewallPolicy.rules {Selector : Type} (pol : FirewallPolicy Selector) : Direction -> List FirewallPolicyRule
  | .ingress => pol.ingress
  | .egress => pol.egress

def CompiledFirewall.rules (fw : CompiledFirewall) : Direction -> List CompiledFwRule
  | .ingress => fw.ingress
  | .egress => fw.egress

def CompiledFwRule.v6 (r : CompiledFwRule) : Bool :=
  ((parse r.cidr).map fun p => !p.addr.isV4).getD false

def CompiledFwRule.hits (r : CompiledFwRule) (p : Packet) : Bool :=
  let ports (port : UInt16) : Bool :=
    decide (r.port = 0) || if r.endPort = 0 then decide (r.port = port.toNat)
      else decide (r.port <= port.toNat /\ port.toNat <= r.endPort)
  inCIDR r.cidr p.peer && selected r.proto ports r.icmpType r.icmpCode p.payload

def firstMatch (rules : List CompiledFwRule) (p : Packet) : String :=
  (((rules.filter fun r => r.v6 == !p.peer.isV4).find? (·.hits p)).map CompiledFwRule.action).getD "Deny"

section

variable {Selector Labels : Type} (selectors : LabelSelectors Selector Labels) (nicLabels : Labels)

def rankedRules (dir : Direction) (policies : List (FirewallPolicy Selector)) : List (FwRank × FirewallPolicyRule) :=
  (policies.filter (selects selectors nicLabels)).flatMap fun pol =>
    (pol.rules dir).zipIdx.map fun (r, idx) => (ruleRank pol r idx, r)

-- Where the VPC asks for nothing: open as long as the direction has no rules.
def posture (defaultPolicy : Option String) (rules : List (FwRank × FirewallPolicyRule)) : String :=
  match defaultPolicy with
  | none => if rules = [] then "Allow" else "Deny"
  | some asked => if asked = "Allow" then "Allow" else "Deny"

def verdict (defaultPolicy : Option String) (rules : List (FwRank × FirewallPolicyRule)) (p : Packet) : String :=
  match (rules.filter fun x => x.2.hits p).argmin Prod.fst with
  | some lowest => lowest.2.action
  | none => posture defaultPolicy rules

end

variable {x : FwRank × FirewallPolicyRule} {defaultPolicy : Option String}

section

def entryOf (x : FwRank × FirewallPolicyRule) : Option FwEntry :=
  (parse x.2.cidr).map (fwEntry x.2 x.1)

lemma entryOf_rank {e : FwEntry} (read : entryOf x = some e) : e.rank = x.1 := by
  obtain ⟨p, -, rfl⟩ := map_eq_some_iff.mp read
  rfl

lemma entryOf_rule_action {e : FwEntry} (read : entryOf x = some e) : e.rule.action = x.2.action := by
  obtain ⟨p, -, rfl⟩ := map_eq_some_iff.mp read
  rfl

lemma newFwEntry_of_admitted {r : FirewallPolicyRule} (admitted : r.Admitted) (rank : FwRank) :
  ∃ e, entryOf (rank, r) = some e /\ newFwEntry r rank = .ok e := by
  obtain ⟨p, read⟩ := admitted.cidr
  have named : ¬ (r.action ≠ "Allow" /\ r.action ≠ "Deny") := by
    have := admitted.action
    tauto
  have proto : protoOK r = true := decide_eq_true admitted.proto
  refine ⟨fwEntry r rank p, by simp [entryOf, read], ?_⟩
  simp only [newFwEntry, read, if_neg named, proto, Bool.true_eq_false, if_false]

variable {r : FirewallPolicyRule} {rank : FwRank} {e : FwEntry}

lemma FirewallPolicyRule.Admitted.code_eq (admitted : r.Admitted) :
  (if r.icmpType = none then none else r.icmpCode) = r.icmpCode := by
  cases set : r.icmpCode with
  | none => exact ite_self none
  | some c => exact if_neg (admitted.icmpCode c set)

lemma entryOf_hits (admitted : r.Admitted) (read : entryOf (rank, r) = some e) (p : Packet) : e.hits p = r.hits p := by
  obtain ⟨block, parsed, rfl⟩ := map_eq_some_iff.mp read
  have ports (port : UInt16) : decide ((fwEntry r rank block).portLo <= port.toNat /\
      port.toNat <= (fwEntry r rank block).portHi) =
    (decide (r.port = 0) || decide (r.port <= port.toNat /\ port.toNat <= r.endPort.getD r.port)) := by
    have small : port.toNat < 65536 := port.toNat_lt
    by_cases any : r.port = 0
    · simp only [fwEntry, any, if_true, decide_true, Bool.true_or, decide_eq_true_eq]
      omega
    · cases set : r.endPort with
      | none => simp [fwEntry, any, set]
      | some last =>
        have := (admitted.endPort last set).2
        by_cases single : r.port < last
        · simp [fwEntry, any, set, filter_some, single]
        · have same : last = r.port := by omega
          simp [fwEntry, any, set, filter_some, same]
  have cidr : (fwEntry r rank block).pfx.contains p.peer = inCIDR r.cidr p.peer := by
    simp [fwEntry, inCIDR, parsed, masked_contains]
  simp only [hits, FirewallPolicyRule.hits, cidr, ports]
  simp only [fwEntry, admitted.code_eq]

lemma entryOf_rule_hits (admitted : r.Admitted) (read : entryOf (rank, r) = some e)
  (p : Packet) : e.rule.hits p = r.hits p := by
  obtain ⟨block, parsed, rfl⟩ := map_eq_some_iff.mp read
  have ports (port : UInt16) : (if (fwEntry r rank block).rule.endPort = 0 then
        decide ((fwEntry r rank block).rule.port = port.toNat)
      else decide ((fwEntry r rank block).rule.port <= port.toNat /\ port.toNat <= (fwEntry r rank block).rule.endPort)) =
    decide (r.port <= port.toNat /\ port.toNat <= r.endPort.getD r.port) := by
    have single : decide (r.port = port.toNat) = decide (r.port <= port.toNat /\ port.toNat <= r.port) :=
      decide_eq_decide.mpr (by omega)
    cases set : r.endPort with
    | none => simp [fwEntry, set, single]
    | some last =>
      obtain ⟨named, order, -⟩ := admitted.endPort last set
      have := admitted.port
      by_cases range : r.port < last
      · have nonzero : last ≠ 0 := by omega
        simp [fwEntry, set, filter_some, named, range, nonzero]
      · have same : last = r.port := by omega
        simp [fwEntry, set, filter_some, same, single]
  simp only [CompiledFwRule.hits, FirewallPolicyRule.hits, ports]
  simp only [fwEntry, admitted.code_eq]

lemma entryOf_rule_v6 (read : entryOf (rank, r) = some e) : e.rule.v6 = e.v6 := by
  obtain ⟨block, parsed, rfl⟩ := map_eq_some_iff.mp read
  simp only [CompiledFwRule.v6, v6, fwEntry, parsed, masked]
  rfl

lemma FwEntry.v6_of_hits {p : Packet} (hit : e.hits p = true) : e.v6 = !p.peer.isV4 := by
  simp only [FwEntry.hits, NetPrefix.contains, Bool.and_eq_true, beq_iff_eq] at hit
  rw [FwEntry.v6, hit.1.1]

end

section

def entriesOf (rules : List (FwRank × FirewallPolicyRule)) : List FwEntry :=
  rules.filterMap entryOf

lemma entriesOf_append (first second : List (FwRank × FirewallPolicyRule)) :
  entriesOf (first ++ second) = entriesOf first ++ entriesOf second :=
  filterMap_append

lemma mem_entriesOf {rules : List (FwRank × FirewallPolicyRule)} {e : FwEntry} :
  e ∈ entriesOf rules ↔ ∃ x ∈ rules, entryOf x = some e :=
  mem_filterMap

lemma foldl_insert (entries : List FwEntry) : entries.foldl FwSet.insert [] = survivors rank covers entries := by
  have same : FwSet.insert = insertRanked rank covers :=
    funext₂ FwSet.insert_eq
  rw [same, survivors]

lemma foldl_insert_append (first second : List FwEntry) :
  second.foldl FwSet.insert (survivors rank covers first) = survivors rank covers (first ++ second) := by
  rw [<- foldl_insert, <- foldl_append, foldl_insert]

variable {Selector Labels : Type}

lemma insertRule_foldlM (pol : FirewallPolicy Selector) (dir : String)
  {rules : List (FirewallPolicyRule × Nat)} (admitted : ∀ x ∈ rules, x.1.Admitted) (s : FwSet) :
  rules.foldlM (insertRule pol dir) s =
    .ok ((entriesOf (rules.map fun x => (ruleRank pol x.1 x.2, x.1))).foldl FwSet.insert s) := by
  induction rules generalizing s with
  | nil => rfl
  | cons x rest ih =>
    obtain ⟨first, later⟩ := forall_mem_cons.mp admitted
    obtain ⟨e, entry, new⟩ := newFwEntry_of_admitted first (ruleRank pol x.1 x.2)
    rw [foldlM_cons, insertRule, new]
    simp only [entriesOf, map_cons, filterMap_cons, entry, foldl_cons]
    exact ih later (s.insert e)

variable (selectors : LabelSelectors Selector Labels) (nicLabels : Labels)

def AllAdmitted (policies : List (FirewallPolicy Selector)) : Prop :=
  ∀ pol ∈ policies, ∀ dir, ∀ r ∈ pol.rules dir, r.Admitted

lemma rankedRules_cons (dir : Direction) (pol : FirewallPolicy Selector) (policies : List (FirewallPolicy Selector)) :
  rankedRules selectors nicLabels dir (pol :: policies) = (if selects selectors nicLabels pol then
      (pol.rules dir).zipIdx.map fun x => (ruleRank pol x.1 x.2, x.1)
    else []) ++ rankedRules selectors nicLabels dir policies := by
  unfold rankedRules
  by_cases selected : selects selectors nicLabels pol <;> simp [selected]

lemma insertPolicy_foldlM {policies : List (FirewallPolicy Selector)} (admitted : AllAdmitted policies) (sets : FwSets) :
  policies.foldlM (insertPolicy selectors nicLabels) sets = .ok
    { ingress := (entriesOf (rankedRules selectors nicLabels .ingress policies)).foldl
        FwSet.insert sets.ingress
      egress := (entriesOf (rankedRules selectors nicLabels .egress policies)).foldl
        FwSet.insert sets.egress } := by
  induction policies generalizing sets with
  | nil => rfl
  | cons pol rest ih =>
    obtain ⟨own, later⟩ := forall_mem_cons.mp admitted
    have indexed (dir : Direction) : ∀ x ∈ (pol.rules dir).zipIdx, x.1.Admitted :=
      fun x listed => own dir x.1 (fst_mem_of_mem_zipIdx listed)
    simp only [foldlM_cons, rankedRules_cons, entriesOf_append, foldl_append, insertPolicy]
    split
    · have ingress := insertRule_foldlM pol "ingress" (indexed .ingress) sets.ingress
      have egress := insertRule_foldlM pol "egress" (indexed .egress) sets.egress
      simp only [FirewallPolicy.rules] at ingress egress ⊢
      rw [ingress, egress]
      exact ih later _
    · exact ih later _

end

section

def anyV4 : FwRank × FirewallPolicyRule := (implicitRank 0, allowAll "0.0.0.0/0")
def anyV6 : FwRank × FirewallPolicyRule := (implicitRank 1, allowAll "::/0")

def implicitRules (defaultPolicy : Option String) (rules : List (FwRank × FirewallPolicyRule)) :
  List (FwRank × FirewallPolicyRule) :=
  if posture defaultPolicy rules = "Allow" then [anyV4, anyV6] else []

lemma allowAll_admitted : (allowAll "0.0.0.0/0").Admitted /\ (allowAll "::/0").Admitted :=
  ⟨@admitted_of_validate _ "" (by decide +kernel), @admitted_of_validate _ "" (by decide +kernel)⟩

variable {rules : List (FwRank × FirewallPolicyRule)}

lemma implicitRules_admitted : ∀ x ∈ implicitRules defaultPolicy rules, x.2.Admitted := by
  unfold implicitRules
  split
  · simpa [anyV4, anyV6] using allowAll_admitted
  · simp

lemma any_hits (p : Packet) : anyV4.2.hits p = true \/ anyV6.2.hits p = true := by
  have v4 : parse "0.0.0.0/0" = some { addr := { isV4 := true, as16 := mappedHead ++ [0, 0, 0, 0] }, bits := 0 } := by
    decide +kernel
  have v6 : parse "::/0" = some { addr := { isV4 := false, as16 := replicate 16 0 }, bits := 0 } := by
    decide +kernel
  cases family : p.peer.isV4
  · right
    simp [FirewallPolicyRule.hits, anyV6, allowAll, selected, inCIDR, v6, NetPrefix.contains, family, BitsAgree]
  · left
    simp [FirewallPolicyRule.hits, anyV4, allowAll, selected, inCIDR, v4, NetPrefix.contains, family, BitsAgree]

lemma entriesOf_eq_nil_iff (admitted : ∀ x ∈ rules, x.2.Admitted) : entriesOf rules = [] ↔ rules = [] := by
  refine ⟨fun empty => ?_, fun empty => by rw [empty]; rfl⟩
  by_contra nonempty
  obtain ⟨x, listed⟩ := exists_mem_of_ne_nil rules nonempty
  obtain ⟨e, entry, -⟩ := newFwEntry_of_admitted (admitted x listed) x.1
  exact not_mem_nil (empty ▸ mem_entriesOf.mpr ⟨x, listed, entry⟩)

lemma addDefault_foldl (defaultPolicy : Option String)
  {rules : List (FwRank × FirewallPolicyRule)} (admitted : ∀ x ∈ rules, x.2.Admitted) :
  addDefault defaultPolicy ((entriesOf rules).foldl FwSet.insert []) = survivors rank covers
      (entriesOf (rules ++ implicitRules defaultPolicy rules)) := by
  have opened : (defaultPolicy = none /\ (entriesOf rules).foldl FwSet.insert [] = []) \/
    defaultPolicy = some "Allow" ↔ posture defaultPolicy rules = "Allow" := by
    rw [foldl_insert, survivors_eq_nil_iff covers_trans, entriesOf_eq_nil_iff admitted]
    cases defaultPolicy <;> simp [posture]
  rw [addDefault, implicitRules, entriesOf_append, <- foldl_insert_append, <- foldl_insert]
  by_cases allowed : posture defaultPolicy rules = "Allow"
  · rw [if_pos (opened.mpr allowed), if_pos allowed]
    generalize (entriesOf rules).foldl FwSet.insert [] = s
    obtain ⟨e4, entry4, new4⟩ := newFwEntry_of_admitted allowAll_admitted.1 (implicitRank 0)
    obtain ⟨e6, entry6, new6⟩ := newFwEntry_of_admitted allowAll_admitted.2 (implicitRank 1)
    simp [entriesOf, anyV4, anyV6, entry4, entry6, new4, new6]
  · rw [if_neg (mt opened.mp allowed), if_neg allowed]
    rfl

end

section

variable {rules : List (FwRank × FirewallPolicyRule)}

lemma firstMatch_map (admitted : ∀ x ∈ rules, x.2.Admitted) {entries : List FwEntry}
  (kept : ∀ e ∈ entries, e ∈ entriesOf rules) (p : Packet) :
  firstMatch (entries.map rule) p = ((entries.find? (·.hits p)).map fun e => e.rule.action).getD "Deny" := by
  have same : ∀ e ∈ entries, ((e.rule.v6 == !p.peer.isV4) && e.rule.hits p) = e.hits p := by
    intro e member
    obtain ⟨x, listed, entry⟩ := mem_entriesOf.mp (kept e member)
    rw [entryOf_rule_v6 entry, entryOf_rule_hits (admitted x listed) entry, <- entryOf_hits (admitted x listed) entry]
    cases hit : e.hits p
    · rw [Bool.and_false]
    · rw [v6_of_hits hit]
      simp
  have found : ((entries.map rule).filter fun r => r.v6 == !p.peer.isV4).find? (·.hits p) =
    (entries.find? (·.hits p)).map rule := by
    rw [find?_filter, find?_map]
    refine congrArg _ (find?_congr fun e member => ?_)
    rw [<- same e member, Function.comp_apply, Bool.decide_and, Bool.decide_eq_true, Bool.decide_eq_true]
  rw [firstMatch, found, Option.map_map]
  rfl

structure WellRanked (rules : List (FwRank × FirewallPolicyRule)) : Prop where
  admitted : ∀ x ∈ rules, x.2.Admitted
  distinct : (rules.map Prod.fst).Nodup
  bounded : ∀ x ∈ rules, x.1.policy <= firewallPriorityMax

lemma implicitRules_rank (implicit : x ∈ implicitRules defaultPolicy rules) :
  x.1.policy = firewallPriorityMax + 1 /\ x.2.action = "Allow" /\ posture defaultPolicy rules = "Allow" := by
  unfold implicitRules at implicit
  split at implicit
  next allowed =>
    rcases mem_pair.mp implicit with rfl | rfl <;> exact ⟨rfl, rfl, allowed⟩
  · cases implicit

lemma posture_eq_deny (denied : posture defaultPolicy rules ≠ "Allow") : posture defaultPolicy rules = "Deny" := by
  unfold posture at denied ⊢
  split at denied <;> split_ifs at denied ⊢ <;> simp_all

lemma WellRanked.rank_lt_implicit (ranked : WellRanked rules) {y : FwRank × FirewallPolicyRule}
  (listed : x ∈ rules) (implicit : y ∈ implicitRules defaultPolicy rules) : x.1 < y.1 := by
  have := ranked.bounded x listed
  have := (implicitRules_rank implicit).1
  exact FwRank.lt_of_policy_lt (by omega)

lemma firstMatch_eq_verdict (ranked : WellRanked rules) (defaultPolicy : Option String) (p : Packet) :
  firstMatch (FwSet.rules (survivors rank covers (entriesOf (rules ++ implicitRules defaultPolicy rules)))) p =
    verdict defaultPolicy rules p := by
  have admitted : ∀ x ∈ rules ++ implicitRules defaultPolicy rules, x.2.Admitted :=
    forall_mem_append.mpr ⟨ranked.admitted, implicitRules_admitted⟩
  have entry_hits {x : FwRank × FirewallPolicyRule} (listed : x ∈ rules ++ implicitRules defaultPolicy rules) :
    ∃ e ∈ entriesOf (rules ++ implicitRules defaultPolicy rules), e.rank = x.1 /\ e.hits p = x.2.hits p := by
    obtain ⟨e, entry, -⟩ := newFwEntry_of_admitted (admitted x listed) x.1
    exact ⟨e, mem_entriesOf.mpr ⟨x, listed, entry⟩, entryOf_rank entry, entryOf_hits (admitted x listed) entry p⟩
  rw [FwSet.rules_eq, firstMatch_map admitted (fun e member => (mem_survivors covers_trans).mp (mem_byRank.mp member) |>.1)]
  cases found : (byRank rank (survivors rank covers
      (entriesOf (rules ++ implicitRules defaultPolicy rules)))).find? (·.hits p) with
  | none =>
    have silent {x : FwRank × FirewallPolicyRule}
      (listed : x ∈ rules ++ implicitRules defaultPolicy rules) : x.2.hits p = false := by
      obtain ⟨e, member, -, same⟩ := entry_hits listed
      rw [<- same]
      exact find?_survivors_eq_none covers_trans covers_sound found member
    have unmatched : (rules.filter fun x => x.2.hits p) = [] :=
      filter_eq_nil_iff.mpr fun x listed => by
        simp [silent (mem_append_left _ listed)]
    -- An open direction would have had the packet match one of its implicit rules.
    have denied : posture defaultPolicy rules ≠ "Allow" := by
      intro allowed
      have both : implicitRules defaultPolicy rules = [anyV4, anyV6] := if_pos allowed
      have v4 := @silent anyV4 (by simp [both])
      have v6 := @silent anyV6 (by simp [both])
      rcases any_hits p with hit | hit <;> simp_all
    rw [verdict, unmatched, argmin_nil, posture_eq_deny denied]
    rfl
  | some m =>
    obtain ⟨member, hit, lowest⟩ :=
      find?_survivors covers_trans covers_sound found
    obtain ⟨x, listed, entry⟩ := mem_entriesOf.mp member
    rw [entryOf_hits (admitted x listed) entry] at hit
    have below {y : FwRank × FirewallPolicyRule}
      (listed : y ∈ rules ++ implicitRules defaultPolicy rules) (hit : y.2.hits p = true) :
      x.1 <= y.1 := by
      obtain ⟨e, member, rank, same⟩ := entry_hits listed
      rw [<- rank, <- entryOf_rank entry]
      exact lowest e member (same.trans hit)
    rw [map_some, getD_some, entryOf_rule_action entry, verdict]
    cases least : (rules.filter fun x => x.2.hits p).argmin Prod.fst with
    | none =>
      have unmatched := filter_eq_nil_iff.mp (argmin_eq_none.mp least)
      rcases mem_append.mp listed with own | implicit
      · exact absurd hit (unmatched x own)
      · obtain ⟨-, allow, allowed⟩ := implicitRules_rank implicit
        rw [allow, allowed]
    | some y =>
      obtain ⟨own, hit'⟩ := mem_filter.mp (argmin_mem least)
      have order := below (mem_append_left _ own) hit'
      rcases mem_append.mp listed with own' | implicit
      · have order' := le_of_mem_argmin (mem_filter.mpr ⟨own', hit⟩) least
        rw [inj_on_of_nodup_map ranked.distinct own' own (le_antisymm order order')]
      · exact absurd order (not_le.mpr (ranked.rank_lt_implicit own implicit))

end

section

variable {rules rules' : List (FwRank × FirewallPolicyRule)}

lemma posture_perm (perm : rules.Perm rules') (defaultPolicy : Option String) :
  posture defaultPolicy rules = posture defaultPolicy rules' := by
  have empty : rules = [] ↔ rules' = [] :=
    ⟨fun none => (none ▸ perm).nil_eq.symm, fun none => (none ▸ perm).eq_nil⟩
  simp only [posture, empty]

lemma overBudget_perm {ingress ingress' egress egress' : FwSet} (perm : ingress.Perm ingress')
  (perm' : egress.Perm egress') (v6 : Bool) (family : String) :
  overBudget ingress egress v6 family = overBudget ingress' egress' v6 family := by
  have same : ingress.count v6 + egress.count v6 = ingress'.count v6 + egress'.count v6 :=
    congrArg₂ (· + ·) (perm.countP_eq _) (perm'.countP_eq _)
  rw [overBudget, overBudget, same]

lemma entriesOf_ranks (rules : List (FwRank × FirewallPolicyRule)) :
  ((entriesOf rules).map rank).Sublist (rules.map Prod.fst) := by
  induction rules with
  | nil => exact List.Sublist.slnil
  | cons x rest ih =>
    rw [entriesOf, filterMap_cons]
    split
    · exact ih.cons x.1
    next e entry =>
      rw [map_cons, map_cons, entryOf_rank entry]
      exact ih.cons_cons x.1

lemma WellRanked.distinct_all (ranked : WellRanked rules) (defaultPolicy : Option String) :
  ((entriesOf (rules ++ implicitRules defaultPolicy rules)).map rank).Nodup := by
  refine List.Nodup.sublist (entriesOf_ranks _) ?_
  rw [map_append]
  refine List.Nodup.append ranked.distinct ?_ ?_
  · unfold implicitRules
    split <;> simp [anyV4, anyV6, implicitRank]
  · intro rank own implicit
    obtain ⟨x, listed, rfl⟩ := mem_map.mp own
    obtain ⟨y, implicit, same⟩ := mem_map.mp implicit
    exact absurd same (ranked.rank_lt_implicit listed implicit).ne'

end

section

variable {Selector Labels : Type} (selectors : LabelSelectors Selector Labels) (nicLabels : Labels)

def survivingEntries (defaultPolicy : Option String) (policies : List (FirewallPolicy Selector)) (dir : Direction) : FwSet :=
  let rules := rankedRules selectors nicLabels dir policies
  survivors rank covers (entriesOf (rules ++ implicitRules defaultPolicy rules))

variable {policies : List (FirewallPolicy Selector)}

lemma allAdmitted_of_validate (valid : ∀ pol ∈ policies, pol.validate selectors = []) : AllAdmitted policies := by
  intro pol listed dir r member
  have valid := valid pol listed
  simp only [FirewallPolicy.validate, append_eq_nil_iff, flatMap_eq_nil_iff] at valid
  obtain ⟨i, here⟩ := mem_iff_getElem?.mp member
  have indexed : (r, i) ∈ (pol.rules dir).zipIdx := mk_mem_zipIdx_iff_getElem?.mpr here
  cases dir with
  | ingress => exact admitted_of_validate (valid.1.2 (r, i) indexed)
  | egress => exact admitted_of_validate (valid.2 (r, i) indexed)

lemma priority_le_of_validate {pol : FirewallPolicy Selector}
  (valid : pol.validate selectors = []) : priorityOr pol.priority <= firewallPriorityMax := by
  simp only [FirewallPolicy.validate, append_eq_nil_iff] at valid
  have priority := valid.1.1.2
  unfold validateFirewallPriority at priority
  split at priority
  next unset => rw [unset]; decide
  next v set =>
    rw [set]
    split at priority
    · cases priority
    next within =>
      simp only [priorityOr, getD_some]
      omega

lemma mem_rankedRules {dir : Direction} : x ∈ rankedRules selectors nicLabels dir policies ↔
    ∃ pol ∈ policies, selects selectors nicLabels pol = true /\
      ∃ i, (x.2, i) ∈ (pol.rules dir).zipIdx /\ x.1 = ruleRank pol x.2 i := by
  simp only [rankedRules, List.mem_flatMap, List.mem_filter, List.mem_map]
  constructor
  · rintro ⟨pol, ⟨listed, chosen⟩, ⟨r, i⟩, indexed, rfl⟩
    exact ⟨pol, listed, chosen, i, indexed, rfl⟩
  · rintro ⟨pol, listed, chosen, i, indexed, rank⟩
    exact ⟨pol, ⟨listed, chosen⟩, (x.2, i), indexed, by rw [<- rank]⟩

lemma rankedRules_distinct (named : (policies.map fun pol => (pol.ns, pol.name)).Nodup) (dir : Direction) :
  ((rankedRules selectors nicLabels dir policies).map Prod.fst).Nodup := by
  rw [rankedRules, map_flatMap, nodup_flatMap]
  constructor
  · intro pol _
    refine List.Nodup.of_map FwRank.index ?_
    have indices : ((((pol.rules dir).zipIdx.map fun x => (ruleRank pol x.1 x.2, x.1)).map
      Prod.fst).map FwRank.index) = (pol.rules dir).zipIdx.map Prod.snd := by
      simp [ruleRank, Function.comp_def]
    rw [indices, zipIdx_map_snd]
    exact nodup_range'
  · have apart := pairwise_map.mp named
    refine (apart.sublist filter_sublist).imp ?_
    intro pol pol' differ rank first second
    simp only [List.map_map, List.mem_map, Function.comp_apply] at first second
    obtain ⟨x, -, rfl⟩ := first
    obtain ⟨y, -, same⟩ := second
    simp only [ruleRank, FwRank.mk.injEq] at same
    exact differ (by rw [same.2.2.1, same.2.2.2.1])

lemma wellRanked_of_validate (valid : ∀ pol ∈ policies, pol.validate selectors = [])
  (named : (policies.map fun pol => (pol.ns, pol.name)).Nodup) (dir : Direction) :
  WellRanked (rankedRules selectors nicLabels dir policies) where
  admitted := by
    intro x listed
    obtain ⟨pol, member, -, i, indexed, -⟩ := (mem_rankedRules selectors nicLabels).mp listed
    exact allAdmitted_of_validate selectors valid pol member dir x.2 (fst_mem_of_mem_zipIdx indexed)
  distinct := rankedRules_distinct selectors nicLabels named dir
  bounded := by
    intro x listed
    obtain ⟨pol, member, -, i, -, rank⟩ := (mem_rankedRules selectors nicLabels).mp listed
    rw [rank]
    exact priority_le_of_validate selectors (valid pol member)

lemma compileFirewall_eq (valid : ∀ pol ∈ policies, pol.validate selectors = []) (defaultPolicy : Option String) :
  compileFirewall selectors nicLabels policies defaultPolicy = (do
    let sets := survivingEntries selectors nicLabels defaultPolicy policies
    overBudget (sets .ingress) (sets .egress) false "IPv4"
    overBudget (sets .ingress) (sets .egress) true "IPv6"
    pure { ingress := (sets .ingress).rules, egress := (sets .egress).rules }) := by
  have all := allAdmitted_of_validate selectors valid
  have admitted (dir : Direction) : ∀ x ∈ rankedRules selectors nicLabels dir policies, x.2.Admitted := by
    intro x listed
    obtain ⟨pol, member, -, i, indexed, -⟩ := (mem_rankedRules selectors nicLabels).mp listed
    exact all pol member dir x.2 (fst_mem_of_mem_zipIdx indexed)
  rw [compileFirewall, insertPolicy_foldlM selectors nicLabels all]
  simp only [bind, Except.bind, addDefault_foldl defaultPolicy (admitted _)]
  rfl

lemma compileFirewall_rules (valid : ∀ pol ∈ policies, pol.validate selectors = []) {fw : CompiledFirewall}
  (compiled : compileFirewall selectors nicLabels policies defaultPolicy = .ok fw)
  (dir : Direction) :
  fw.rules dir = (survivingEntries selectors nicLabels defaultPolicy policies dir).rules := by
  rw [compileFirewall_eq selectors nicLabels valid] at compiled
  simp only [bind, Except.bind, pure, Except.pure] at compiled
  split at compiled
  · cases compiled
  · split at compiled
    · cases compiled
    · obtain rfl := Except.ok.inj compiled
      cases dir <;> rfl

lemma survivingEntries_perm (valid : ∀ pol ∈ policies, pol.validate selectors = [])
  (named : (policies.map fun pol => (pol.ns, pol.name)).Nodup)
  {policies' : List (FirewallPolicy Selector)} (perm : policies.Perm policies')
  (defaultPolicy : Option String) (dir : Direction) :
  (survivingEntries selectors nicLabels defaultPolicy policies dir).Perm
      (survivingEntries selectors nicLabels defaultPolicy policies' dir) /\
    (survivingEntries selectors nicLabels defaultPolicy policies dir).rules =
      (survivingEntries selectors nicLabels defaultPolicy policies' dir).rules := by
  have rules : (rankedRules selectors nicLabels dir policies).Perm
    (rankedRules selectors nicLabels dir policies') := (perm.filter _).flatMap_right _
  have entries : (entriesOf (rankedRules selectors nicLabels dir policies ++
      implicitRules defaultPolicy (rankedRules selectors nicLabels dir policies))).Perm
    (entriesOf (rankedRules selectors nicLabels dir policies' ++
      implicitRules defaultPolicy (rankedRules selectors nicLabels dir policies'))) := by
    rw [implicitRules, implicitRules, posture_perm rules]
    exact (rules.append_right _).filterMap _
  have sorted := byRank_survivors_perm covers_trans
    ((wellRanked_of_validate selectors nicLabels valid named dir).distinct_all defaultPolicy) entries
  have sort (s : FwSet) := perm_insertionSort (Order.Preimage rank (· <= ·)) s
  refine ⟨(sort _).symm.trans ((List.Perm.of_eq sorted).trans (sort _)), ?_⟩
  rw [FwSet.rules_eq, FwSet.rules_eq]
  exact congrArg (map rule) sorted

theorem compileFirewall_sound (policies : List (FirewallPolicy Selector))
  (valid : ∀ pol ∈ policies, pol.validate selectors = [])
  (named : (policies.map fun pol => (pol.ns, pol.name)).Nodup) (defaultPolicy : Option String)
  (fw : CompiledFirewall)
  (compiled : compileFirewall selectors nicLabels policies defaultPolicy = .ok fw) :
  (∀ dir p, firstMatch (fw.rules dir) p = verdict defaultPolicy (rankedRules selectors nicLabels dir policies) p) /\
    ∀ policies', policies.Perm policies' -> compileFirewall selectors nicLabels policies' defaultPolicy = .ok fw := by
  have rules := compileFirewall_rules selectors nicLabels valid compiled
  constructor
  · intro dir p
    rw [rules dir]
    exact firstMatch_eq_verdict (wellRanked_of_validate selectors nicLabels valid named dir) defaultPolicy p
  · intro policies' perm
    have valid' : ∀ pol ∈ policies', pol.validate selectors = [] :=
      fun pol listed => valid pol (perm.mem_iff.mpr listed)
    have ingress := survivingEntries_perm selectors nicLabels valid named perm defaultPolicy .ingress
    have egress := survivingEntries_perm selectors nicLabels valid named perm defaultPolicy .egress
    have count (v6 : Bool) (family : String) := overBudget_perm ingress.1 egress.1 v6 family
    rw [compileFirewall_eq selectors nicLabels valid] at compiled
    rw [compileFirewall_eq selectors nicLabels valid']
    simp only [ingress.2, egress.2, count] at compiled
    exact compiled

end

def byLabel : LabelSelectors String (List String) where
  validate _ _ := []
  asSelector label := some fun labels => decide (label ∈ labels)

def allowTCP (cidr : String) (port : Int) (endPort : Option Int) : FirewallPolicyRule where
  cidr := cidr
  proto := "TCP"
  port := port
  endPort := endPort
  icmpType := none
  icmpCode := none
  action := "Allow"
  priority := none

def webPolicies : List (FirewallPolicy String) :=
  [{ ns := "tenant", name := "web", interfaceSelector := some "web", priority := none,
     ingress := [allowTCP "10.0.0.0/8" 80 (some 443), allowTCP "10.1.0.0/16" 80 none],
     egress := [] },
   { ns := "tenant", name := "block", interfaceSelector := some "web", priority := some 100,
     ingress := [{ allowTCP "10.2.0.0/16" 0 none with action := "Deny" }], egress := [] }]

def webFirewall : CompiledFirewall where
  ingress :=
    [{ cidr := "10.2.0.0/16", proto := "TCP", port := 0, endPort := 0, icmpType := none,
       icmpCode := none, action := "Deny" },
     { cidr := "10.0.0.0/8", proto := "TCP", port := 80, endPort := 443, icmpType := none,
       icmpCode := none, action := "Allow" }]
  egress :=
    [{ cidr := "0.0.0.0/0", proto := "", port := 0, endPort := 0, icmpType := none,
       icmpCode := none, action := "Allow" },
     { cidr := "::/0", proto := "", port := 0, endPort := 0, icmpType := none,
       icmpCode := none, action := "Allow" }]

theorem webPolicies_compiled : compileFirewall byLabel ["web"] webPolicies none = .ok webFirewall /\
    (∀ dir p, firstMatch (webFirewall.rules dir) p = verdict none (rankedRules byLabel ["web"] dir webPolicies) p) /\
    compileFirewall byLabel ["web"] webPolicies.reverse none = .ok webFirewall := by
  have compiled : compileFirewall byLabel ["web"] webPolicies none = .ok webFirewall := by
    rfl
  have sound := compileFirewall_sound byLabel ["web"] webPolicies (by decide +kernel)
    (by decide +kernel) none webFirewall compiled
  exact ⟨compiled, sound.1, sound.2 _ webPolicies.reverse_perm.symm⟩

end Ectobase.Mesh
