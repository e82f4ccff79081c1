import Ectobase.Flowplane.FwClass
import Ectobase.Shared.OrderedMap
import Ectobase.Shared.RefCount

namespace Ectobase.Flowplane

open Shared

instance linearOrderUInt32 : LinearOrder UInt32 where
  le_refl _ := UInt32.le_refl _
  le_trans _ _ _ := UInt32.le_trans
  le_antisymm _ _ := UInt32.le_antisymm
  le_total := UInt32.le_total
  lt_iff_le_not_ge a b := by simp only [UInt32.lt_iff_toNat_lt, UInt32.le_iff_toNat_le]; omega
  toDecidableLE := inferInstance

instance linearOrderUInt64 : LinearOrder UInt64 where
  le_refl _ := UInt64.le_refl _
  le_trans _ _ _ := UInt64.le_trans
  le_antisymm _ _ := UInt64.le_antisymm
  le_total := UInt64.le_total
  lt_iff_le_not_ge a b := by simp only [UInt64.lt_iff_toNat_lt, UInt64.le_iff_toNat_le]; omega
  toDecidableLE := inferInstance

structure FwTables where
  fwBind : Map UInt32 FwBind
  fwScopes : Map UInt64 Scope
  fwEpoch : UInt32

structure FwCore where
  w : FwTables
  fwBinds : Map UInt32 FwBind
  fwScopeRefs : Map UInt64 Nat
  fwPartial : Bool

-- Which writes fail, and where a walk is cut short. Scope deletions succeed.
structure FwFaults where
  createIngress : Bool := false
  createEgress : Bool := false
  bindUpsert : Bool := false
  bindRemove : Bool := false
  epochBump : Bool := false
  bindWalk : Option (Finset UInt32) := none
  scopeWalk : Option (Finset UInt64) := none

variable (s : FwCore) (faults : FwFaults)

namespace FwCore

def empty : FwCore := ⟨⟨∅, ∅, 0⟩, ∅, ∅, false⟩

def scopeDelete (id : UInt64) : FwCore := { s with w := { s.w with fwScopes := s.w.fwScopes.erase id } }

def epochBump (fails : Bool) : FwCore :=
  if fails then s else { s with w := { s.w with fwEpoch := s.w.fwEpoch + 1 } }

def scopeIdOf (scope : Option Scope) : UInt64 := scope.elim fwScopeNone Scope.id

def acquireScopes (refs : Map UInt64 Nat) (bind : FwBind) : Map UInt64 Nat :=
  [bind.ingressScope, bind.egressScope].foldl (fun refs id => if id ≠ fwScopeNone then acquire refs id else refs) refs

def releaseScope (id : UInt64) : FwCore := if id = fwScopeNone then s
  else
    let (last, refs) := release s.fwScopeRefs id
    let s := { s with fwScopeRefs := refs }
    -- After a cut adopt, a binding it never read may still use the scope.
    if last && !s.fwPartial then s.scopeDelete id else s

def fwReleaseScopes (old : FwBind) : FwCore :=
  (s.releaseScope old.ingressScope).releaseScope old.egressScope

def fwDiscardScopes (ids : List UInt64) : FwCore := if s.fwPartial then s else ids.foldl scopeDelete s

def adoptFwClassifier : Except String Unit × FwCore := let binds := match faults.bindWalk with
  | none => s.w.fwBind
  | some read => eraseAll s.w.fwBind (sorted (s.w.fwBind.keys \ read))
  let refs := (values binds).foldl acquireScopes ∅
  let s := { s with fwPartial := faults.bindWalk.isSome, fwBinds := binds, fwScopeRefs := refs }
  let listed := match faults.scopeWalk with
    | none => s.w.fwScopes.keys
    | some read => s.w.fwScopes.keys ∩ read
  let s := if s.fwPartial then s
    else (sorted (listed.filter fun id => (refs.lookup id).isNone)).foldl scopeDelete s
  let answer := match faults.bindWalk, faults.scopeWalk with
    | none, none => .ok ()
    | some _, _ => .error
        "FW_BIND walk cut short: adopted the bindings read; no scope is deleted until a later firewall change walks it whole"
    | none, some _ => .error "scope walk cut short: unbound scopes it did not list stay until the next adopt"
  (answer, s)

def fwHeal : FwCore := if s.fwPartial then (s.adoptFwClassifier faults).2 else s

-- false at the first create that fails, with the ids created until then.
def createScopes (refs : Map UInt64 Nat) : List (Option Scope × Bool) -> Map UInt64 Scope ->
  List UInt64 -> Bool × Map UInt64 Scope × List UInt64
  | [], scopes, created => (true, scopes, created)
  | (none, _) :: rest, scopes, created => createScopes refs rest scopes created
  | (some scope, fails) :: rest, scopes, created =>
    if (refs.lookup scope.id).isSome \/ scope.id ∈ created then
      createScopes refs rest scopes created
    else if fails then (false, scopes, created)
    else createScopes refs rest (scopes.insert scope.id scope) (created ++ [scope.id])

def fwBindScopes (ifindex : UInt32) (ingress egress : Option Scope) : Except FwError Unit × FwCore :=
  let s := s.fwHeal faults
  let bind : FwBind := ⟨scopeIdOf ingress, scopeIdOf egress⟩
  let old := s.fwBinds.lookup ifindex
  if old = some bind then (.ok (), s)
  else
    let (made, scopes, created) :=
      createScopes s.fwScopeRefs [(ingress, faults.createIngress), (egress, faults.createEgress)] s.w.fwScopes []
    let s := { s with w := { s.w with fwScopes := scopes } }
    if !made || faults.bindUpsert then (.error .map, s.fwDiscardScopes created)
    else
      let s := { s with
          w := { s.w with fwBind := s.w.fwBind.insert ifindex bind }
          fwBinds := s.fwBinds.insert ifindex bind
          fwScopeRefs := acquireScopes s.fwScopeRefs bind }
      let s := s.epochBump faults.epochBump
      let s := match old with
        | some old => s.fwReleaseScopes old
        | none => s
      (if faults.epochBump then .error .map else .ok (), s)

def removeFwRules (ifindex : UInt32) : FwCore := let s := s.fwHeal faults
  match s.fwBinds.lookup ifindex with
  | none => s
  | some old =>
    let s := { s with fwBinds := s.fwBinds.erase ifindex }
    let s := if faults.bindRemove then s
      else { s with w := { s.w with fwBind := s.w.fwBind.erase ifindex } }
    (s.epochBump faults.epochBump).fwReleaseScopes old

end FwCore

def compileIface (v4 : List FwRule) (v6 : List FwRule6) : Except FwError (Option Scope × Option Scope) := do
  let ingress <- compileScope fwDirIngress v4 v6
  let egress <- compileScope fwDirEgress v4 v6
  pure (ingress, egress)

-- Nothing here reads the ids of the rules.
def replaceInterfaceFw (ifacesMeta : Map (List UInt8) UInt32)
  (interfaceId : List UInt8) (v4 : List (List UInt8 × FwRule)) (v6 : List (List UInt8 × FwRule6)) :
  Except FwError Unit × FwCore :=
  match ifacesMeta.lookup interfaceId with
  | none => (.error .unknownInterface, s)
  | some ifindex =>
    match compileIface (v4.map Prod.snd) (v6.map Prod.snd) with
    | .error e => (.error e, s)
    | .ok (ingress, egress) => s.fwBindScopes faults ifindex ingress egress

end Ectobase.Flowplane
