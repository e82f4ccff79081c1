import Mathlib.Data.Nat.ModEq
import Ectobase.Flowplane.Conntrack
import Ectobase.Flowplane.FwStoreRuns

namespace Ectobase.Flowplane

open Shared

structure EpochRun where
  core : FwCore
  bumps : Nat
  writtenAt : UInt32 -> Nat

namespace EpochRun

def start : EpochRun := ⟨FwCore.empty, 0, fun _ => 0⟩

def observe (r : EpochRun) (core : FwCore) : EpochRun where
  core := core
  bumps := if core.w.fwEpoch = r.core.w.fwEpoch then r.bumps else r.bumps + 1
  writtenAt := fun ifindex =>
    if core.w.fwBind.lookup ifindex = r.core.w.fwBind.lookup ifindex then r.writtenAt ifindex
    else r.bumps

def step (r : EpochRun) : FwCall -> EpochRun
  | .replaceInterfaceFw faults ifacesMeta interfaceId v4 v6 =>
    r.observe (replaceInterfaceFw r.core faults ifacesMeta interfaceId v4 v6).2
  | .removeFwRules faults ifindex => r.observe (r.core.removeFwRules faults ifindex)

end EpochRun

namespace FwCore

lemma fwDiscardScopes_kept (s : FwCore) (ids : List UInt64) :
  (s.fwDiscardScopes ids).fwPartial = s.fwPartial /\ (s.fwDiscardScopes ids).w.fwBind = s.w.fwBind /\
    (s.fwDiscardScopes ids).w.fwEpoch = s.w.fwEpoch := by
  unfold fwDiscardScopes
  split
  · exact ⟨rfl, rfl, rfl⟩
  · rw [foldl_scopeDelete]
    exact ⟨rfl, rfl, rfl⟩

lemma epochBump_kept (s : FwCore) (fails : Bool) :
  (s.epochBump fails).fwPartial = s.fwPartial /\ (s.epochBump fails).w.fwBind = s.w.fwBind /\
    (s.epochBump fails).w.fwEpoch = if fails then s.w.fwEpoch else s.w.fwEpoch + 1 := by
  cases fails <;> exact ⟨rfl, rfl, rfl⟩

lemma fwBindScopes_written {s : FwCore} (whole : s.fwPartial = false) (faults : FwFaults)
  (ifindex : UInt32) (ingress egress : Option Scope) :
  let bind : FwBind := ⟨scopeIdOf ingress, scopeIdOf egress⟩
  let out := s.fwBindScopes faults ifindex ingress egress
  (s.fwBinds.lookup ifindex = some bind /\ out = (.ok (), s)) \/
    (s.fwBinds.lookup ifindex ≠ some bind /\ out.2.fwPartial = false /\
      ((out.1 = .error .map /\ out.2.w.fwBind = s.w.fwBind /\ out.2.w.fwEpoch = s.w.fwEpoch) \/
        (out.1 = (if faults.epochBump then .error .map else .ok ()) /\ out.2.w.fwBind = s.w.fwBind.insert ifindex bind /\
          out.2.w.fwEpoch = if faults.epochBump then s.w.fwEpoch else s.w.fwEpoch + 1))) := by
  have healed : s.fwHeal faults = s := by simp [fwHeal, whole]
  intro bind out
  unfold out fwBindScopes
  simp only [healed]
  split
  next same => exact .inl ⟨same, rfl⟩
  next other =>
    refine .inr ⟨other, ?_⟩
    split
    · have kept := fun t : FwCore => fwDiscardScopes_kept t
      exact ⟨(kept _ _).1.trans whole, .inl ⟨rfl, (kept _ _).2.1, (kept _ _).2.2⟩⟩
    · have bumped := fun t : FwCore => epochBump_kept t faults.epochBump
      cases s.fwBinds.lookup ifindex with
      | none => exact ⟨(bumped _).1.trans whole, .inr ⟨rfl, (bumped _).2⟩⟩
      | some old =>
        have released := fun t : FwCore => fwReleaseScopes_releases t old
        exact ⟨(released _).fwPartial.trans ((bumped _).1.trans whole), .inr ⟨rfl,
          (released _).fwBind.trans (bumped _).2.1, (released _).fwEpoch.trans (bumped _).2.2⟩⟩

lemma removeFwRules_partial {s : FwCore} (whole : s.fwPartial = false) (faults : FwFaults)
  (ifindex : UInt32) : (s.removeFwRules faults ifindex).fwPartial = false := by
  have healed : s.fwHeal faults = s := by simp [fwHeal, whole]
  unfold removeFwRules
  simp only [healed]
  split
  · exact whole
  next old _ =>
    have released := fun t : FwCore => (fwReleaseScopes_releases t old).fwPartial
    have bumped := fun t : FwCore => (epochBump_kept t faults.epochBump).1
    rw [released, bumped]
    split <;> exact whole

lemma removeFwRules_epoch {s : FwCore} (whole : s.fwPartial = false) (faults : FwFaults)
  (ifindex : UInt32) : (s.removeFwRules faults ifindex).w.fwEpoch = s.w.fwEpoch \/
    (s.removeFwRules faults ifindex).w.fwEpoch = s.w.fwEpoch + 1 := by
  have healed : s.fwHeal faults = s := by simp [fwHeal, whole]
  unfold removeFwRules
  simp only [healed]
  split
  · exact .inl rfl
  next old _ =>
    have released := fun t : FwCore => (fwReleaseScopes_releases t old).fwEpoch
    have bumped := fun t : FwCore => (epochBump_kept t faults.epochBump).2.2
    rw [released, bumped]
    cases faults.epochBump <;> cases faults.bindRemove <;> simp

end FwCore

namespace EpochRun

structure Counted (r : EpochRun) : Prop where
  whole : r.core.fwPartial = false
  epoch : r.core.w.fwEpoch = UInt32.ofNat r.bumps
  written : ∀ ifindex, r.writtenAt ifindex <= r.bumps

variable {r : EpochRun}

lemma succ_ne (epoch : UInt32) : epoch + 1 ≠ epoch := by
  intro same
  simp at same

lemma Counted.observe (counted : r.Counted) {core : FwCore} (whole : core.fwPartial = false)
  (epoch : core.w.fwEpoch = r.core.w.fwEpoch \/ core.w.fwEpoch = r.core.w.fwEpoch + 1) :
  (r.observe core).Counted := by
  refine ⟨whole, ?_, fun ifindex => ?_⟩
  · show core.w.fwEpoch = UInt32.ofNat (if core.w.fwEpoch = r.core.w.fwEpoch then _ else _)
    rcases epoch with same | bumped
    · rw [if_pos same, same, counted.epoch]
    · rw [if_neg (by rw [bumped]; exact succ_ne _), bumped, counted.epoch, UInt32.ofNat_add]
      rfl
  · have before := counted.written ifindex
    have grows : r.bumps <= (r.observe core).bumps := by
      simp only [EpochRun.observe]
      split <;> omega
    refine le_trans ?_ grows
    simp only [EpochRun.observe]
    split
    · exact before
    · exact le_rfl

lemma replace_counted (counted : r.Counted) (faults : FwFaults)
  (ifacesMeta : Map (List UInt8) UInt32) (interfaceId : List UInt8)
  (v4 : List (List UInt8 × FwRule)) (v6 : List (List UInt8 × FwRule6)) :
  let core := (replaceInterfaceFw r.core faults ifacesMeta interfaceId v4 v6).2
  core.fwPartial = false /\ (core.w.fwEpoch = r.core.w.fwEpoch \/ core.w.fwEpoch = r.core.w.fwEpoch + 1) := by
  intro core
  unfold core replaceInterfaceFw
  split
  · exact ⟨counted.whole, .inl rfl⟩
  next ifindex _ =>
    split
    · exact ⟨counted.whole, .inl rfl⟩
    next ingress egress _ =>
      rcases FwCore.fwBindScopes_written counted.whole faults ifindex ingress egress with
        ⟨-, same⟩ | ⟨-, whole, ⟨-, -, epoch⟩ | ⟨-, -, epoch⟩⟩
      · rw [same]
        exact ⟨counted.whole, .inl rfl⟩
      · exact ⟨whole, .inl epoch⟩
      · refine ⟨whole, ?_⟩
        rw [epoch]
        cases faults.epochBump
        · exact .inr rfl
        · exact .inl rfl

lemma Counted.step (counted : r.Counted) (call : FwCall) : (r.step call).Counted := by
  cases call with
  | replaceInterfaceFw faults ifacesMeta interfaceId v4 v6 =>
    obtain ⟨whole, epoch⟩ := replace_counted counted faults ifacesMeta interfaceId v4 v6
    exact counted.observe whole epoch
  | removeFwRules faults ifindex =>
    exact counted.observe (FwCore.removeFwRules_partial counted.whole faults ifindex)
      (FwCore.removeFwRules_epoch counted.whole faults ifindex)

lemma start_counted : start.Counted := ⟨rfl, rfl, fun _ => le_rfl⟩

lemma run_counted (counted : r.Counted) (calls : List FwCall) : (calls.foldl EpochRun.step r).Counted := by
  induction calls generalizing r with
  | nil => exact counted
  | cons call calls ih => exact ih (counted.step call)

def Settles (r : EpochRun) (ifindex : UInt32) (scopes : Option Scope × Option Scope) : Prop :=
  r.core.fwBinds.lookup ifindex = some (FwRun.bindOf scopes) -> r.writtenAt ifindex < r.bumps

end EpochRun

def CtEntry.Forward (e : CtEntry) : Prop := e.flags &&& (ctFReply ||| ctRewriteDst) = 0

lemma ofNat_eq_iff {a b : Nat} (order : b <= a) : UInt32.ofNat b = UInt32.ofNat a ↔ 2 ^ 32 ∣ a - b := by
  rw [<- UInt32.toNat_inj, UInt32.toNat_ofNat', UInt32.toNat_ofNat']
  exact (Nat.modEq_iff_dvd' order)

lemma EpochRun.Counted.due_iff {r : EpochRun} (counted : r.Counted) {e : CtEntry}
  (forward : e.Forward) {b : Nat} (order : b <= r.bumps)
  (stamped : e.policyEpoch = UInt32.ofNat b) :
  ctNeedsRecheck e r.core.w.fwEpoch none = true ↔ ¬ 2 ^ 32 ∣ r.bumps - b := by
  have own : (e.flags &&& (ctFReply ||| ctRewriteDst) != 0) = false := by
    rw [show e.flags &&& (ctFReply ||| ctRewriteDst) = 0 from forward]
    rfl
  unfold ctNeedsRecheck
  rw [own, counted.epoch, stamped]
  simp [ofNat_eq_iff order]

theorem replace_reaches_flows (calls : List FwCall) (faults : FwFaults)
  (ifacesMeta : Map (List UInt8) UInt32) (interfaceId : List UInt8)
  (v4 : List (List UInt8 × FwRule)) (v6 : List (List UInt8 × FwRule6)) (ifindex : UInt32)
  (scopes : Option Scope × Option Scope) (attached : ifacesMeta.lookup interfaceId = some ifindex)
  (compiled : compileIface (v4.map Prod.snd) (v6.map Prod.snd) = .ok scopes)
  (ok : (replaceInterfaceFw (calls.foldl EpochRun.step EpochRun.start).core faults ifacesMeta interfaceId v4 v6).1 = .ok ()) :
  let r := calls.foldl EpochRun.step EpochRun.start
  let r' := r.step (.replaceInterfaceFw faults ifacesMeta interfaceId v4 v6)
  (r'.writtenAt ifindex < r'.bumps ↔ r.Settles ifindex scopes) /\
    ∀ e : CtEntry, e.Forward -> ∀ b ≤ r'.writtenAt ifindex, e.policyEpoch = UInt32.ofNat b ->
      (ctNeedsRecheck e r'.core.w.fwEpoch none = true ↔ ¬ 2 ^ 32 ∣ r'.bumps - b) := by
  intro r r'
  have counted : r.Counted := EpochRun.run_counted EpochRun.start_counted calls
  have counted' : r'.Counted := counted.step _
  refine ⟨?_, fun e forward b before stamped =>
    counted'.due_iff forward (before.trans (counted'.written ifindex)) stamped⟩
  obtain ⟨ingress, egress⟩ := scopes
  have call : replaceInterfaceFw r.core faults ifacesMeta interfaceId v4 v6 =
    r.core.fwBindScopes faults ifindex ingress egress := by
    simp only [replaceInterfaceFw, attached, compiled]
  have after : r' = r.observe (r.core.fwBindScopes faults ifindex ingress egress).2 := by
    rw [<- call]
    rfl
  change (replaceInterfaceFw r.core faults ifacesMeta interfaceId v4 v6).1 = _ at ok
  rw [call] at ok
  rw [after]
  rcases FwCore.fwBindScopes_written counted.whole faults ifindex ingress egress with
    ⟨found, same⟩ | ⟨other, -, ⟨failed, -⟩ | ⟨answer, bound, epoch⟩⟩
  · -- Nothing is written, so what was owed before is owed still.
    have kept : r.observe r.core = r := by simp [EpochRun.observe]
    rw [same, kept]
    exact ⟨fun bumped _ => bumped, fun settles => settles found⟩
  · rw [failed] at ok
    cases ok
  · have succeeds : faults.epochBump = false := by
      rw [answer] at ok
      cases fails : faults.epochBump with
      | false => rfl
      | true =>
        rw [fails] at ok
        cases ok
    refine iff_of_true ?_ fun found => absurd found other
    have bumped : (r.observe (r.core.fwBindScopes faults ifindex ingress egress).2).bumps = r.bumps + 1 := by
      simp only [EpochRun.observe, epoch, succeeds]
      exact if_neg (EpochRun.succ_ne _)
    rw [bumped]
    have before := counted.written ifindex
    simp only [EpochRun.observe]
    split <;> omega

abbrev revokeCall (faults : FwFaults) : FwCall := .replaceInterfaceFw faults twoIfaces [1] [] []

def unbumpedCalls : List FwCall := [allowCall {} 1 hostA, revokeCall { epochBump := true }]

def admittedFlow : CtEntry where
  lastSeen := 0
  xlateIp := Vector.replicate 4 0
  xlatePort := 0
  flags := ctFDefault
  tcpState := 0
  fwallAction := 1
  policyEpoch := 1

theorem revoked_flow_not_due : let r := unbumpedCalls.foldl EpochRun.step EpochRun.start
  let r' := r.step (revokeCall {})
  (replaceInterfaceFw r.core {} twoIfaces [1] [] []).1 = .ok () /\ ¬ r'.writtenAt 1 < r'.bumps /\ admittedFlow.Forward /\
    admittedFlow.policyEpoch = UInt32.ofNat (r'.writtenAt 1) /\
    ctNeedsRecheck admittedFlow r'.core.w.fwEpoch none = false := by
  refine ⟨by decide +kernel, by decide +kernel, ?_, by decide +kernel, by decide +kernel⟩
  unfold CtEntry.Forward
  decide

theorem revoked_flow_due :
  let r' := ([allowCall {} 1 hostA].foldl EpochRun.step EpochRun.start).step (revokeCall {})
  r'.writtenAt 1 < r'.bumps /\ ctNeedsRecheck admittedFlow r'.core.w.fwEpoch none = true := by
  have forward : admittedFlow.Forward := by
    unfold CtEntry.Forward
    decide
  have reaches := replace_reaches_flows [allowCall {} 1 hostA] {} twoIfaces [1] [] [] 1 (none, none)
    (by decide +kernel) (by decide +kernel) (by decide +kernel)
  simp only at reaches ⊢
  have due := reaches.2 admittedFlow forward 1 (by decide +kernel) (by decide)
  generalize after : (List.foldl EpochRun.step EpochRun.start [allowCall {} 1 hostA]).step
    (.replaceInterfaceFw {} twoIfaces [1] [] []) = r' at reaches due ⊢
  have bumps : r'.bumps = 2 := by
    rw [<- after]
    decide +kernel
  refine ⟨reaches.1.mpr fun found => absurd found (by decide +kernel), due.mpr ?_⟩
  rw [bumps]
  decide

end Ectobase.Flowplane
