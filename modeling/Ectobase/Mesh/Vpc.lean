import Ectobase.Dispatch.ClusterPool
import Ectobase.Shared.Store
import Mathlib.Data.Int.ConditionallyCompleteOrder
import Mathlib.Data.List.Dedup
import Mathlib.Data.List.Sort

namespace Ectobase.Mesh

open Shared List
open Dispatch (Condition ConditionStatus setStatusCondition)

def vniAllocStart : Int := 1000

def vniAllocEnd : Int := 2 ^ 24 - 1

structure NamespacedName where
  ns : String
  name : String
  deriving DecidableEq, Repr

inductive VPCState where
  | unset
  | ready
  | conflict
  | exhausted
  deriving DecidableEq, Repr

structure VPC where
  key : NamespacedName
  uid : String
  creationTimestamp : Int
  generation : Int
  terminating : Bool
  specVNI : Option Int
  defaultPolicy : Option String
  vni : Int
  state : VPCState
  conditions : List Condition
  deriving DecidableEq, Repr

variable (items : List VPC) (self vpc : VPC)

def VPC.pin : Option Int := vpc.specVNI.filter (· ≠ 0)

def VPC.isSelf (other : VPC) : Bool := decide (other.uid = self.uid) || decide (other.key = self.key)

def others : List VPC := items.filter fun other => !self.isSelf other

def usedVNIs : List Int := (others items self).flatMap fun other =>
  other.pin.toList ++ if other.vni ≠ 0 then [other.vni] else []

def committedElsewhere (vni : Int) : Bool :=
  (others items self).any fun o => decide (o.vni = vni) && decide (o.state = .ready)

def outranks (a b : VPC) : Bool := if a.creationTimestamp < b.creationTimestamp then true
  else if b.creationTimestamp < a.creationTimestamp then false
  else decide (a.uid < b.uid)

def losesPin (competitors : List VPC) : Bool := competitors.any fun c => outranks c self

def firstGap : Int -> List Int -> Int
  | next, [] => next
  | next, v :: taken =>
    if v > next then next
    else if v = next then firstGap (next + 1) taken
    else firstGap next taken

def lowestFreeVNI (used : List Int) : Option Int :=
  let inRange := used.dedup.filter fun v => vniAllocStart <= v /\ v <= vniAllocEnd
  let next := firstGap vniAllocStart (inRange.insertionSort (· <= ·))
  if next <= vniAllocEnd then some next else none

def firewallDefaultCondition : Condition := let c (reason message : String) : Condition :=
  { type := "FirewallDefault", status := .isTrue, reason, message,
    observedGeneration := vpc.generation }
  match vpc.defaultPolicy with
  | none =>
    c "PerDirection" ("defaultPolicy is unset: a direction no FirewallPolicy governs is open, " ++
      "a governed direction admits only what its rules allow (Kubernetes NetworkPolicy semantics)")
  | some "Allow" =>
    c "Allow" ("traffic no firewall rule matches is allowed: every interface's ingress and " ++
      "egress end with an implicit lowest-priority allow-all")
  | some _ =>
    c "Deny" "traffic no firewall rule matches is dropped, in both directions, on every interface"

def VPC.setState (vni : Int) (state : VPCState) : VPC := { vpc with
  vni, state, conditions := (setStatusCondition vpc.conditions (firewallDefaultCondition vpc)).1 }

def VPC.heldBySelf (desired : Int) : Bool := decide (vpc.vni = desired) && decide (vpc.state = .ready)

def reconcileVPC : VPC := if vpc.terminating then vpc
  else
    match vpc.pin with
    | some desired =>
      let pinnedBy := (others items vpc).filter fun o => o.pin = some desired
      if !vpc.heldBySelf desired && (committedElsewhere items vpc desired || losesPin vpc pinnedBy)
      then vpc.setState vpc.vni .conflict
      else vpc.setState desired .ready
    | none =>
      match lowestFreeVNI (usedVNIs items vpc) with
      | none => vpc.setState vpc.vni .exhausted
      | some free => vpc.setState free .ready

section

lemma firstGap_ge (next : Int) (taken : List Int) : next <= firstGap next taken := by
  induction taken generalizing next with
  | nil => exact le_refl next
  | cons v taken ih =>
    simp only [firstGap]
    split_ifs
    · exact le_refl next
    · exact le_trans (by omega) (ih (next + 1))
    · exact ih next

lemma mem_of_lt_firstGap {next x : Int} {taken : List Int} (from_ : next <= x)
  (below : x < firstGap next taken) : x ∈ taken := by
  induction taken generalizing next with
  | nil =>
    simp only [firstGap] at below
    omega
  | cons v taken ih =>
    simp only [firstGap] at below
    split_ifs at below with gap here
    · omega
    · rcases eq_or_lt_of_le from_ with rfl | later
      · exact here ▸ mem_cons_self
      · exact mem_cons_of_mem v (ih (by omega) below)
    · exact mem_cons_of_mem v (ih from_ below)

lemma firstGap_notMem {next : Int} {taken : List Int} (sorted : taken.Pairwise (· <= ·)) : firstGap next taken ∉ taken := by
  induction taken generalizing next with
  | nil => exact not_mem_nil
  | cons v taken ih =>
    obtain ⟨least, rest⟩ := pairwise_cons.mp sorted
    simp only [firstGap]
    rw [mem_cons, not_or]
    split_ifs with gap here
    · exact ⟨by omega, fun member => absurd (least next member) (by omega)⟩
    · have := firstGap_ge (next + 1) taken
      exact ⟨by omega, ih rest⟩
    · have := firstGap_ge next taken
      exact ⟨by omega, ih rest⟩

variable {used : List Int}

def freeVNIs (used : List Int) : Set Int := { x | x ∈ Set.Icc vniAllocStart vniAllocEnd /\ x ∉ used }

lemma lowestFreeVNI_iff {free : Int} : lowestFreeVNI used = some free ↔ IsLeast (freeVNIs used) free := by
  let taken := (used.dedup.filter fun v => vniAllocStart <= v /\ v <= vniAllocEnd).insertionSort (· <= ·)
  have mem_taken (x : Int) : x ∈ taken ↔ x ∈ used /\ vniAllocStart <= x /\ x <= vniAllocEnd := by
    simp [taken, mem_insertionSort]
  have start := firstGap_ge vniAllocStart taken
  have gap : firstGap vniAllocStart taken ∉ taken := firstGap_notMem (pairwise_insertionSort (· <= ·) _)
  -- Whatever is free lies at or above the gap.
  have above {x : Int} (open_ : x ∈ freeVNIs used) : firstGap vniAllocStart taken <= x := by
    by_contra below
    exact open_.2 ((mem_taken x).mp (mem_of_lt_firstGap open_.1.1 (by omega))).1
  have least (within : firstGap vniAllocStart taken <= vniAllocEnd) :
    IsLeast (freeVNIs used) (firstGap vniAllocStart taken) :=
    ⟨⟨⟨start, within⟩, fun member => gap ((mem_taken _).mpr ⟨member, start, within⟩)⟩, fun _ => above⟩
  have unfolded : lowestFreeVNI used = if firstGap vniAllocStart taken <= vniAllocEnd then some (firstGap vniAllocStart taken)
    else none := rfl
  rw [unfolded]
  split
  next within =>
    rw [Option.some_inj]
    exact ⟨fun same => same ▸ least within, fun other => (least within).unique other⟩
  next past =>
    refine ⟨(fun none_ => nomatch none_), fun other => absurd (above other.1) ?_⟩
    have := other.1.1.2
    omega

end

end Ectobase.Mesh
