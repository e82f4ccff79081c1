import Ectobase.Mesh.FirewallPolicy
import Ectobase.Shared.Precedence
import Mathlib.Data.Prod.Lex
import Mathlib.Data.String.Basic

namespace Ectobase.Mesh

open Shared NetPrefix

structure CompiledFwRule where
  cidr : String
  proto : String
  port : Int
  endPort : Int
  icmpType : Option Int
  icmpCode : Option Int
  action : String
  deriving DecidableEq, Repr

structure FwRank where
  policy : Int
  rule : Int
  ns : String
  name : String
  index : Nat
  deriving DecidableEq, Repr

def FwRank.compare (a b : FwRank) : Ordering :=
  (Ord.compare a.policy b.policy).then <| (Ord.compare a.rule b.rule).then <|
    (Ord.compare a.ns b.ns).then <| (Ord.compare a.name b.name).then <| Ord.compare a.index b.index

def implicitRank (index : Nat) : FwRank where
  policy := firewallPriorityMax + 1
  rule := 0
  ns := ""
  name := ""
  index := index

structure FwEntry where
  rule : CompiledFwRule
  pfx : NetPrefix
  portLo : Int
  portHi : Int
  rank : FwRank
  deriving DecidableEq, Repr

def fwEntry (r : FirewallPolicyRule) (rank : FwRank) (p : NetPrefix) : FwEntry :=
  -- A one-port range is just the port.
  let range := if r.port = 0 then none else r.endPort.filter (r.port < ·)
  { rule :=
      { cidr := r.cidr, proto := r.proto, port := r.port, endPort := range.getD 0,
        icmpType := r.icmpType, icmpCode := if r.icmpType = none then none else r.icmpCode,
        action := r.action }
    pfx := p.masked
    portLo := r.port
    portHi := if r.port = 0 then 65535 else range.getD r.port
    rank }

def newFwEntry (r : FirewallPolicyRule) (rank : FwRank) : Except String FwEntry :=
  match parse r.cidr with
  | none => .error ("cidr " ++ r.cidr.quote ++ " is not a CIDR")
  | some p =>
    if r.action ≠ "Allow" /\ r.action ≠ "Deny" then
      .error ("action " ++ r.action.quote ++ " is not Allow or Deny")
    else if protoOK r = false then
      .error ("proto " ++ r.proto.quote ++ " is not TCP, UDP or ICMP")
    else .ok (fwEntry r rank p)

def FwEntry.v6 (e : FwEntry) : Bool := !e.pfx.addr.isV4

def optCovers (a e : Option Int) : Bool :=
  decide (a = none) || decide (a = e)

def FwEntry.covers (a e : FwEntry) : Bool :=
  if a.v6 ≠ e.v6 \/ a.pfx.bits > e.pfx.bits \/ a.pfx.contains e.pfx.addr = false then false
  else if a.rule.proto = "" then true
  else if a.rule.proto ≠ e.rule.proto then false
  else if a.rule.proto = "ICMP" then
    optCovers a.rule.icmpType e.rule.icmpType && optCovers a.rule.icmpCode e.rule.icmpCode
  else decide (a.portLo <= e.portLo) && decide (e.portHi <= a.portHi)

abbrev FwSet := List FwEntry

def FwSet.insert (s : FwSet) (e : FwEntry) : FwSet :=
  if s.any fun x => x.rank.compare e.rank == .lt && x.covers e then s
  else s.filter (fun x => !(e.rank.compare x.rank == .lt && e.covers x)) ++ [e]

def FwSet.rules (s : FwSet) : List CompiledFwRule :=
  (s.insertionSort fun a b => (a.rank.compare b.rank).isLE).map FwEntry.rule

def FwSet.count (s : FwSet) (v6 : Bool) : Nat :=
  s.countP fun e => e.v6 == v6

def priorityOr (p : Option Int) : Int :=
  p.getD firewallPriorityDefault

structure FirewallCompileError where
  reason : String
  message : String
  deriving DecidableEq, Repr

structure CompiledFirewall where
  ingress : List CompiledFwRule
  egress : List CompiledFwRule
  deriving DecidableEq, Repr

def firewallRuleBudget : Nat := 256

section

variable {Selector Labels : Type} (selectors : LabelSelectors Selector Labels) (nicLabels : Labels)

def selects (pol : FirewallPolicy Selector) : Bool :=
  match pol.interfaceSelector with
  | none => false
  | some sel =>
    match selectors.asSelector sel with
    | none => false
    | some matching => matching nicLabels

def ruleRank (pol : FirewallPolicy Selector) (r : FirewallPolicyRule) (idx : Nat) : FwRank where
  policy := priorityOr pol.priority
  rule := priorityOr r.priority
  ns := pol.ns
  name := pol.name
  index := idx

def insertRule (pol : FirewallPolicy Selector) (dir : String) (s : FwSet)
  (rule : FirewallPolicyRule × Nat) : Except FirewallCompileError FwSet :=
  match newFwEntry rule.1 (ruleRank pol rule.1 rule.2) with
  | .error e => .error
      { reason := "InvalidRule"
        message := "FirewallPolicy " ++ pol.ns ++ "/" ++ pol.name ++ " " ++ dir ++ "[" ++
          toString rule.2 ++ "]: " ++ e }
  | .ok e => .ok (s.insert e)

structure FwSets where
  ingress : FwSet
  egress : FwSet

def insertPolicy (sets : FwSets) (pol : FirewallPolicy Selector) : Except FirewallCompileError FwSets :=
  if selects selectors nicLabels pol then do
    let ingress <- pol.ingress.zipIdx.foldlM (insertRule pol "ingress") sets.ingress
    let egress <- pol.egress.zipIdx.foldlM (insertRule pol "egress") sets.egress
    pure { ingress, egress }
  else pure sets

def allowAll (cidr : String) : FirewallPolicyRule where
  cidr := cidr
  proto := ""
  port := 0
  endPort := none
  icmpType := none
  icmpCode := none
  action := "Allow"
  priority := none

def addDefault (defaultPolicy : Option String) (s : FwSet) : FwSet :=
  if (defaultPolicy = none /\ s = []) \/ defaultPolicy = some "Allow" then
    ["0.0.0.0/0", "::/0"].zipIdx.foldl (fun s (cidr, i) =>
        match newFwEntry (allowAll cidr) (implicitRank i) with
        | .ok e => s.insert e
        | .error _ => s)
      s
  else s

def overBudget (ingress egress : FwSet) (v6 : Bool) (family : String) : Except FirewallCompileError Unit :=
  let n := ingress.count v6 + egress.count v6
  if n > firewallRuleBudget then .error
    { reason := "RuleBudgetExceeded"
      message := toString n ++ " " ++ family ++ " rules after removing shadowed ones (ingress and " ++
        "egress combined), over the per-interface budget of " ++ toString firewallRuleBudget }
  else .ok ()

def compileFirewall (policies : List (FirewallPolicy Selector)) (defaultPolicy : Option String) :
  Except FirewallCompileError CompiledFirewall := do
  let sets <- policies.foldlM (insertPolicy selectors nicLabels) { ingress := [], egress := [] }
  let ingress := addDefault defaultPolicy sets.ingress
  let egress := addDefault defaultPolicy sets.egress
  overBudget ingress egress false "IPv4"
  overBudget ingress egress true "IPv6"
  pure { ingress := FwSet.rules ingress, egress := FwSet.rules egress }

end

section

def FwRank.key (a : FwRank) : Int ×ₗ Int ×ₗ String ×ₗ String ×ₗ Nat :=
  toLex (a.policy, toLex (a.rule, toLex (a.ns, toLex (a.name, a.index))))

lemma FwRank.key_injective : Function.Injective FwRank.key := by
  intro a b same
  cases a
  cases b
  simpa [FwRank.key] using same

instance : LinearOrder FwRank :=
  LinearOrder.lift' FwRank.key FwRank.key_injective

lemma FwRank.compare_eq (a b : FwRank) : a.compare b = Ord.compare a.key b.key := rfl

variable (s : FwSet) {a b : FwRank}

lemma FwRank.compare_lt_iff : a.compare b = .lt ↔ a < b := by
  rw [FwRank.compare_eq]
  exact compare_lt_iff_lt

lemma FwRank.compare_isLE_iff : (a.compare b).isLE = true ↔ a <= b := by
  rw [FwRank.compare_eq]
  rw [Ordering.isLE_iff_ne_gt]
  exact compare_le_iff_le

lemma FwRank.lt_of_policy_lt (lower : a.policy < b.policy) : a < b :=
  Prod.Lex.toLex_lt_toLex.mpr (.inl lower)

lemma FwSet.insert_eq (e : FwEntry) : s.insert e = insertRanked FwEntry.rank FwEntry.covers s e := by
  have below (a b : FwRank) : (a.compare b == .lt) = decide (a < b) := by
    rw [Bool.eq_iff_iff, beq_iff_eq, decide_eq_true_eq, FwRank.compare_lt_iff]
  simp only [FwSet.insert, insertRanked, below]

lemma FwSet.rules_eq : s.rules = (byRank FwEntry.rank s).map FwEntry.rule := by
  have order : (fun a b : FwEntry => (a.rank.compare b.rank).isLE = true) = Order.Preimage FwEntry.rank (· <= ·) :=
    funext₂ fun a b => propext FwRank.compare_isLE_iff
  unfold FwSet.rules byRank
  congr!

end

def FwEntry.hits (e : FwEntry) (p : Packet) : Bool :=
  let ports (port : UInt16) : Bool := decide (e.portLo <= port.toNat /\ port.toNat <= e.portHi)
  e.pfx.contains p.peer && selected e.rule.proto ports e.rule.icmpType e.rule.icmpCode p.payload

def FwEntry.payloadCovers (a e : FwEntry) : Prop :=
  a.rule.proto = "" \/ a.rule.proto = e.rule.proto /\ if a.rule.proto = "ICMP" then
        optCovers a.rule.icmpType e.rule.icmpType = true /\ optCovers a.rule.icmpCode e.rule.icmpCode = true
      else a.portLo <= e.portLo /\ e.portHi <= a.portHi

lemma FwEntry.covers_iff {a e : FwEntry} : a.covers e = true ↔ e.pfx.within a.pfx = true /\ a.payloadCovers e := by
  have family : a.pfx.contains e.pfx.addr = true -> a.v6 = e.v6 := by
    intro held
    simp only [contains, Bool.and_eq_true, beq_iff_eq] at held
    rw [FwEntry.v6, FwEntry.v6, held.1]
  unfold FwEntry.covers FwEntry.payloadCovers within
  split
  next outside =>
    refine iff_of_false Bool.false_ne_true ?_
    rintro ⟨inside, -⟩
    simp only [Bool.and_eq_true, decide_eq_true_eq] at inside
    rcases outside with other | shorter | apart
    · exact other (family inside.2)
    · omega
    · rw [inside.2] at apart
      cases apart
  next inside =>
    simp only [not_or, not_lt, Bool.not_eq_false, gt_iff_lt] at inside
    simp only [inside, decide_true, Bool.and_self, true_and]
    split
    next any => simp [any]
    next named =>
      rw [or_iff_right named]
      split
      next other => simp [other]
      next same =>
        rw [not_not] at same
        split <;> simp [same]

lemma optCovers_trans {a b c : Option Int} (first : optCovers a b = true)
  (second : optCovers b c = true) : optCovers a c = true := by
  simp only [optCovers, Bool.or_eq_true, decide_eq_true_eq] at first second ⊢
  grind

lemma optMatches_of_optCovers {a e : Option Int} {v : UInt8} (covered : optCovers a e = true)
  (matched : optMatches e v = true) : optMatches a v = true := by
  simp only [optCovers, Bool.or_eq_true, decide_eq_true_eq] at covered
  rcases covered with rfl | rfl
  · rfl
  · exact matched

lemma FwEntry.covers_trans (a b c : FwEntry) (first : a.covers b = true)
  (second : b.covers c = true) : a.covers c = true := by
  rw [covers_iff] at first second ⊢
  constructor
  · have inside := first.1
    have deeper := second.1
    simp only [within, Bool.and_eq_true, decide_eq_true_eq] at deeper ⊢
    have longer : a.pfx.bits <= b.pfx.bits := by
      simp only [within, Bool.and_eq_true, decide_eq_true_eq] at inside
      exact inside.1
    exact ⟨longer.trans deeper.1, contains_of_within inside deeper.2⟩
  · obtain ⟨-, first⟩ := first
    obtain ⟨-, second⟩ := second
    rcases first with any | ⟨same, narrower⟩
    · exact .inl any
    rcases second with any | ⟨same', narrower'⟩
    · exact .inl (same.trans any)
    refine .inr ⟨same.trans same', ?_⟩
    rw [<- same] at narrower'
    split at narrower
    next icmp =>
      rw [if_pos icmp] at narrower' ⊢
      exact ⟨optCovers_trans narrower.1 narrower'.1, optCovers_trans narrower.2 narrower'.2⟩
    next icmp =>
      rw [if_neg icmp] at narrower' ⊢
      exact ⟨narrower.1.trans narrower'.1, narrower'.2.trans narrower.2⟩

lemma FwEntry.covers_sound (a e : FwEntry) (p : Packet) (covered : a.covers e = true)
  (hit : e.hits p = true) : a.hits p = true := by
  obtain ⟨inside, payload⟩ := covers_iff.mp covered
  simp only [FwEntry.hits, Bool.and_eq_true] at hit ⊢
  refine ⟨contains_of_within inside hit.1, ?_⟩
  rcases payload with any | ⟨same, narrower⟩
  · simp [selected, any]
  · have hit := hit.2
    rw [<- same] at hit
    unfold selected at hit ⊢
    split at hit
    next any => rw [if_pos any]
    next named =>
      rw [if_neg named]
      split at hit
      case h_1 | h_2 =>
        simp only [Bool.and_eq_true, decide_eq_true_eq] at hit ⊢
        rw [if_neg (by rw [hit.1]; decide)] at narrower
        exact ⟨hit.1, narrower.1.trans hit.2.1, hit.2.2.trans narrower.2⟩
      case h_3 type code =>
        simp only [Bool.and_eq_true, decide_eq_true_eq] at hit ⊢
        rw [if_pos hit.1.1] at narrower
        exact ⟨⟨hit.1.1, optMatches_of_optCovers narrower.1 hit.1.2⟩, optMatches_of_optCovers narrower.2 hit.2⟩
      case h_4 => cases hit

end Ectobase.Mesh
