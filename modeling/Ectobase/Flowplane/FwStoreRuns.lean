import Ectobase.Flowplane.FwStoreSound

namespace Ectobase.Flowplane

open Shared Option

inductive FwCall where
  | replaceInterfaceFw (faults : FwFaults) (ifacesMeta : Map (List UInt8) UInt32)
      (interfaceId : List UInt8) (v4 : List (List UInt8 × FwRule)) (v6 : List (List UInt8 × FwRule6))
  | removeFwRules (faults : FwFaults) (ifindex : UInt32)

def FwCall.faults : FwCall -> FwFaults
  | .replaceInterfaceFw faults _ _ _ _ => faults
  | .removeFwRules faults _ => faults

def FwCall.scopes : FwCall -> List Scope
  | .replaceInterfaceFw _ _ _ v4 v6 =>
    match compileIface (v4.map Prod.snd) (v6.map Prod.snd) with
    | .ok (ingress, egress) => ingress.toList ++ egress.toList
    | .error _ => []
  | .removeFwRules _ _ => []

structure FwRun where
  core : FwCore
  compiled : Map UInt32 (Option Scope × Option Scope)

namespace FwRun

def start : FwRun := ⟨FwCore.empty, ∅⟩

def bindOf (scopes : Option Scope × Option Scope) : FwBind :=
  ⟨FwCore.scopeIdOf scopes.1, FwCore.scopeIdOf scopes.2⟩

def step (r : FwRun) : FwCall -> FwRun
  | .replaceInterfaceFw faults ifacesMeta interfaceId v4 v6 =>
    let core := (replaceInterfaceFw r.core faults ifacesMeta interfaceId v4 v6).2
    match ifacesMeta.lookup interfaceId, compileIface (v4.map Prod.snd) (v6.map Prod.snd) with
    | some ifindex, .ok scopes =>
      -- the call took effect when the binding in force names what it compiled
      if core.fwBinds.lookup ifindex = some (bindOf scopes) then
        ⟨core, r.compiled.insert ifindex scopes⟩
      else ⟨core, r.compiled⟩
    | _, _ => ⟨core, r.compiled⟩
  | .removeFwRules faults ifindex =>
    ⟨r.core.removeFwRules faults ifindex, r.compiled.erase ifindex⟩

structure Consistent (r : FwRun) : Prop where
  bound : ∀ ifindex bind, r.core.w.fwBind.lookup ifindex = some bind ->
    ∃ scopes, r.compiled.lookup ifindex = some scopes /\ bind = bindOf scopes /\
      ∀ scope, scopes.1 = some scope \/ scopes.2 = some scope ->
        r.core.w.fwScopes.lookup scope.id = some scope
  counted : Counted r.core.fwScopeRefs (bindUses r.core.w.fwBind)
  used : ∀ id, (r.core.w.fwScopes.lookup id).isSome -> 0 < bindUses r.core.w.fwBind id

structure Tracked (among : Scope -> Prop) (r : FwRun) : Prop where
  sound : r.core.Sound
  stored : ∀ id scope, r.core.w.fwScopes.lookup id = some scope -> scope.id = id /\ among scope
  binds : ∀ ifindex, r.core.fwBinds.lookup ifindex = (r.compiled.lookup ifindex).map bindOf
  compiled : ∀ ifindex scopes, r.compiled.lookup ifindex = some scopes ->
    ∀ scope, scopes.1 = some scope \/ scopes.2 = some scope ->
      among scope /\ scope.id ≠ fwScopeNone

lemma start_tracked (among : Scope -> Prop) : Tracked among start where
  sound := FwCore.empty_sound
  stored id scope held := by simp [start, FwCore.empty] at held
  binds ifindex := by simp [start, FwCore.empty]
  compiled ifindex scopes held := by simp [start] at held

end FwRun

lemma compileScope_id {dir : UInt8} {v4 : List FwRule} {v6 : List FwRule6} {scope : Scope}
  (compiled : compileScope dir v4 v6 = .ok (some scope)) : scope.id ≠ fwScopeNone := by
  obtain ⟨p4, p6, -, -, -, -, id⟩ := compileScope_ok dir v4 v6 _ compiled
  exact id ▸ scopeId_ne_none scope.v4 scope.v6

variable {scopes : Option Scope × Option Scope}

lemma compileIface_named {v4 : List FwRule} {v6 : List FwRule6} (compiled : compileIface v4 v6 = .ok scopes) (scope : Scope)
  (wanted : scopes.1 = some scope \/ scopes.2 = some scope) :
  scope.id ≠ fwScopeNone := by
  unfold compileIface at compiled
  cases ingress : compileScope fwDirIngress v4 v6 with
  | error e => simp [ingress, bind, Except.bind] at compiled
  | ok i =>
    cases egress : compileScope fwDirEgress v4 v6 with
    | error e => simp [ingress, egress, bind, Except.bind] at compiled
    | ok e =>
      simp only [ingress, egress, bind, Except.bind, pure, Except.pure, Except.ok.injEq] at compiled
      subst compiled
      rcases wanted with rfl | rfl
      · exact compileScope_id ingress
      · exact compileScope_id egress

namespace FwRun

variable {among : Scope -> Prop} {r : FwRun}

lemma Tracked.rebound (tracked : Tracked among r) {core : FwCore} {ifindex : UInt32}
  (rebound : FwCore.Rebound r.core core ifindex scopes.1 scopes.2)
  (known : ∀ scope, scopes.1 = some scope \/ scopes.2 = some scope -> among scope /\ scope.id ≠ fwScopeNone) :
  Tracked among ⟨core, r.compiled.insert ifindex scopes⟩ where
  sound := rebound.sound
  stored id scope held := by
    rcases rebound.fwScopes id scope held with before | ⟨same, wanted⟩
    · exact tracked.stored id scope before
    · exact ⟨same, (known scope wanted).1⟩
  binds k := by
    rw [rebound.fwBinds, lookup_insert_ite, lookup_insert_ite, tracked.binds]
    split <;> rfl
  compiled k scopes' held := by
    rw [lookup_insert_ite] at held
    split at held
    · cases held
      exact known
    · exact tracked.compiled k scopes' held

lemma Tracked.recompiled (tracked : Tracked among r) {ifindex : UInt32}
  (bound : r.core.fwBinds.lookup ifindex = some (bindOf scopes))
  (known : ∀ scope, scopes.1 = some scope \/ scopes.2 = some scope -> among scope /\ scope.id ≠ fwScopeNone) :
  Tracked among ⟨r.core, r.compiled.insert ifindex scopes⟩ where
  sound := tracked.sound
  stored := tracked.stored
  binds k := by
    rw [lookup_insert_ite]
    split
    next here => rw [here, bound, map_some]
    · exact tracked.binds k
  compiled k scopes' held := by
    rw [lookup_insert_ite] at held
    split at held
    · cases held
      exact known
    · exact tracked.compiled k scopes' held

lemma Tracked.step (tracked : Tracked among r) (call : FwCall)
  (removes : call.faults.bindRemove = false) (known : ∀ scope ∈ call.scopes, among scope) :
  Tracked among (r.step call) := by
  cases call with
  | removeFwRules faults ifindex =>
    have succeeds : faults.bindRemove = false := removes
    obtain ⟨sound, binds, scopes⟩ := tracked.sound.removeFwRules succeeds ifindex
    exact
      { sound := sound
        stored := fun id scope held => tracked.stored id scope (scopes id scope held)
        binds := fun k => by
          show (r.core.removeFwRules faults ifindex).fwBinds.lookup k =
            ((r.compiled.erase ifindex).lookup k).map bindOf
          rw [binds, lookup_erase_ite, lookup_erase_ite, tracked.binds]
          split <;> rfl
        compiled := fun k scopes' held => by
          simp only [FwRun.step, lookup_erase_ite] at held
          split at held
          · cases held
          · exact tracked.compiled k scopes' held }
  | replaceInterfaceFw faults ifacesMeta interfaceId v4 v6 =>
    cases attached : ifacesMeta.lookup interfaceId with
    | none => simpa only [FwRun.step, replaceInterfaceFw, attached] using tracked
    | some ifindex =>
      cases result : compileIface (v4.map Prod.snd) (v6.map Prod.snd) with
      | error e => simpa only [FwRun.step, replaceInterfaceFw, attached, result] using tracked
      | ok scopes =>
        have wanted : ∀ scope, scopes.1 = some scope \/ scopes.2 = some scope -> among scope /\ scope.id ≠ fwScopeNone := by
          intro scope either
          refine ⟨known scope ?_, compileIface_named result scope either⟩
          simp only [FwCall.scopes, result, List.mem_append, mem_toList]
          exact either
        simp only [FwRun.step, replaceInterfaceFw, attached, result]
        rcases FwCore.fwBindScopes_cases tracked.sound faults ifindex scopes.1 scopes.2
            (fun scope either => (wanted scope either).2) with
          ⟨same, bound⟩ | ⟨failed, unbound⟩ | ⟨core, written, rebound⟩
        · rw [same, if_pos (show r.core.fwBinds.lookup ifindex = some (bindOf scopes) from bound)]
          exact tracked.recompiled bound wanted
        · rw [failed, if_neg (show ¬ r.core.fwBinds.lookup ifindex = some (bindOf scopes) from unbound)]
          exact tracked
        · have bound : core.fwBinds.lookup ifindex = some (bindOf scopes) := by
            rw [rebound.fwBinds, Finmap.lookup_insert]
            rfl
          rw [written, if_pos bound]
          exact tracked.rebound rebound wanted

lemma run_tracked (tracked : Tracked among r) (calls : List FwCall) (removes : ∀ call ∈ calls, call.faults.bindRemove = false)
  (known : ∀ call ∈ calls, ∀ scope ∈ call.scopes, among scope) :
  Tracked among (calls.foldl FwRun.step r) := by
  induction calls generalizing r with
  | nil => exact tracked
  | cons call calls ih =>
    have next := tracked.step call (removes call List.mem_cons_self) (known call List.mem_cons_self)
    exact ih next (fun c held => removes c (List.mem_cons_of_mem _ held))
      (fun c held => known c (List.mem_cons_of_mem _ held))

lemma Tracked.consistent (tracked : Tracked among r)
  (distinct : ∀ a b, among a -> among b -> a.id = b.id -> a = b) : r.Consistent where
  bound ifindex bind held := by
    rw [tracked.sound.mirrored, tracked.binds, map_eq_some_iff] at held
    obtain ⟨scopes, compiled, rfl⟩ := held
    refine ⟨scopes, compiled, rfl, fun scope wanted => ?_⟩
    obtain ⟨here, named⟩ := tracked.compiled ifindex scopes compiled scope wanted
    have bound : r.core.fwBinds.lookup ifindex = some (bindOf scopes) := by
      rw [tracked.binds, compiled, map_some]
    -- the binding uses the scope, so some content is stored under its id
    have used : 0 < bindUses r.core.fwBinds scope.id := by
      have direct := FwCore.uses_scopeIdOf named wanted
      have count := bindUses_erase bound scope.id
      simp only [bindOf] at count
      omega
    obtain ⟨content, stored⟩ := isSome_iff_exists.mp ((tracked.sound.pooled.stored _).mpr used)
    obtain ⟨same, compiled'⟩ := tracked.stored scope.id content stored
    rw [stored, distinct content scope compiled' here same]
  counted := tracked.sound.mirrored ▸ tracked.sound.pooled.counted
  used id := by
    rw [tracked.sound.mirrored]
    exact (tracked.sound.pooled.stored id).mp

end FwRun

lemma replaceInterfaceFw_error {s : FwCore} (sound : s.Sound) {faults : FwFaults}
  {ifacesMeta : Map (List UInt8) UInt32} {interfaceId : List UInt8}
  {v4 : List (List UInt8 × FwRule)} {v6 : List (List UInt8 × FwRule6)} {e : FwError} {s' : FwCore}
  (failed : replaceInterfaceFw s faults ifacesMeta interfaceId v4 v6 = (.error e, s')) :
  s' = s \/ faults.epochBump = true /\ ∃ ifindex scopes, ifacesMeta.lookup interfaceId = some ifindex /\
    compileIface (v4.map Prod.snd) (v6.map Prod.snd) = .ok scopes /\
    s'.w.fwBind.lookup ifindex = some (FwRun.bindOf scopes) := by
  unfold replaceInterfaceFw at failed
  split at failed
  · exact .inl (Prod.mk.inj failed).2.symm
  next ifindex attached =>
    split at failed
    · exact .inl (Prod.mk.inj failed).2.symm
    next ingress egress compiled =>
      rcases FwCore.fwBindScopes_cases sound faults ifindex ingress egress
          (compileIface_named compiled) with ⟨same, -⟩ | ⟨kept, -⟩ | ⟨core, written, rebound⟩
      · rw [same] at failed
        cases failed
      · rw [kept] at failed
        exact .inl (Prod.mk.inj failed).2.symm
      · rw [written] at failed
        obtain ⟨answer, rfl⟩ := Prod.mk.inj failed
        cases bump : faults.epochBump with
        | false => simp [bump] at answer
        | true =>
          refine .inr ⟨rfl, ifindex, (ingress, egress), attached, compiled, ?_⟩
          rw [rebound.sound.mirrored, rebound.fwBinds, Finmap.lookup_insert]
          rfl

theorem fw_store_consistent (calls : List FwCall) (removes : ∀ call ∈ calls, call.faults.bindRemove = false)
  (distinct : ∀ a ∈ calls.flatMap FwCall.scopes, ∀ b ∈ calls.flatMap FwCall.scopes, a.id = b.id -> a = b) :
  (calls.foldl FwRun.step FwRun.start).Consistent /\ ∀ faults ifacesMeta interfaceId v4 v6 e s',
      replaceInterfaceFw (calls.foldl FwRun.step FwRun.start).core faults ifacesMeta interfaceId v4 v6 = (.error e, s') ->
      (s'.w.fwBind = (calls.foldl FwRun.step FwRun.start).core.w.fwBind /\
          s'.w.fwScopes = (calls.foldl FwRun.step FwRun.start).core.w.fwScopes) \/
        faults.epochBump = true /\ ∃ ifindex scopes, ifacesMeta.lookup interfaceId = some ifindex /\
          compileIface (v4.map Prod.snd) (v6.map Prod.snd) = .ok scopes /\
          s'.w.fwBind.lookup ifindex = some (FwRun.bindOf scopes) := by
  have tracked := FwRun.run_tracked (FwRun.start_tracked fun scope => scope ∈ calls.flatMap FwCall.scopes) calls removes
    fun call listed scope held => List.mem_flatMap.mpr ⟨call, listed, held⟩
  refine ⟨tracked.consistent fun a b ina inb => distinct a ina b inb, ?_⟩
  intro faults ifacesMeta interfaceId v4 v6 e s' failed
  rcases replaceInterfaceFw_error tracked.sound failed with rfl | bumped
  · exact .inl ⟨rfl, rfl⟩
  · exact .inr bumped

def twoIfaces : Map (List UInt8) UInt32 := (Finmap.insert [1] 1 ∅).insert [2] 2

def allowHost (host : Vector UInt8 16) : FwRule6 where
  srcIp := host
  srcMask := Vector.replicate 16 255
  dstIp := Vector.replicate 16 0
  dstMask := Vector.replicate 16 0
  srcPortMin := 0
  srcPortMax := 65535
  dstPortMin := 0
  dstPortMax := 65535
  icmpType := 0xffff
  icmpCode := 0xffff
  proto := 0
  action := fwActionAccept
  direction := fwDirIngress
  enabled := 1

-- Two hosts whose scopes FNV-1a 64 maps to one id.
def hostA : Vector UInt8 16 :=
  #v[0xfd, 0x70, 0x0a, 0xc3, 0xe0, 0xb1, 0x00, 0x15, 0x79, 0x42, 0x95, 0x62, 0xaf, 0x95, 0x8e, 0xd1]
def hostB : Vector UInt8 16 :=
  #v[0xfd, 0x1c, 0xe0, 0x86, 0x1a, 0xa3, 0x98, 0xbf, 0x0e, 0xec, 0xf4, 0x7f, 0x69, 0xb4, 0xfd, 0x43]

def allowCall (faults : FwFaults) (iface : UInt8) (host : Vector UInt8 16) : FwCall :=
  .replaceInterfaceFw faults twoIfaces [iface] [] [([0], allowHost host)]

def collidingCalls : List FwCall := [allowCall {} 1 hostA, allowCall {} 2 hostB]
def unremovedCalls : List FwCall :=
  [allowCall {} 1 hostA, .removeFwRules { bindRemove := true } 1]

def hostScope (host : Vector UInt8 16) : Option Scope :=
  match compileScope fwDirIngress [] [allowHost host] with
  | .ok scope => scope
  | .error _ => none

-- Two rule lists with one content id; a failed binding removal.
theorem fw_store_inconsistent : ¬ (collidingCalls.foldl FwRun.step FwRun.start).Consistent /\
    ∃ bind, (unremovedCalls.foldl FwRun.step FwRun.start).core.w.fwBind.lookup 1 = some bind /\
      bind.ingressScope ≠ fwScopeNone /\
      (unremovedCalls.foldl FwRun.step FwRun.start).core.w.fwScopes.lookup bind.ingressScope =
        none := by
  constructor
  · intro consistent
    have bound : (collidingCalls.foldl FwRun.step FwRun.start).core.w.fwBind.lookup 2 =
      some ⟨2861794933173523132, 0⟩ := by decide +kernel
    have known : (collidingCalls.foldl FwRun.step FwRun.start).compiled.lookup 2 =
      some (hostScope hostB, none) := by decide +kernel
    obtain ⟨scopes, compiled, -, content⟩ := consistent.bound _ _ bound
    obtain rfl := mem_unique known compiled
    have other : ¬ ((hostScope hostB).all fun scope =>
        (collidingCalls.foldl FwRun.step FwRun.start).core.w.fwScopes.lookup scope.id ==
          some scope) = true := by decide +kernel
    cases scopeB : hostScope hostB with
    | none => simp [scopeB] at other
    | some scope =>
      rw [scopeB] at other
      exact other (by simpa using content scope (.inl scopeB))
  · exact ⟨⟨2861794933173523132, 0⟩, by decide +kernel, by decide +kernel, by decide +kernel⟩

def sharedCalls : List FwCall :=
  [allowCall {} 1 hostA, allowCall { bindUpsert := true } 2 hostA, allowCall {} 2 hostA, .removeFwRules {} 1]

theorem shared_scope_consistent : (sharedCalls.foldl FwRun.step FwRun.start).Consistent /\
    (sharedCalls.foldl FwRun.step FwRun.start).core.fwScopeRefs.lookup 2861794933173523132 = some 1 :=
  ⟨(fw_store_consistent sharedCalls (by decide +kernel) (by decide +kernel)).1, by decide +kernel⟩

end Ectobase.Flowplane
