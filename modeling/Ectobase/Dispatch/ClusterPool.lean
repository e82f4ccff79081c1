import Ectobase.Shared.KeyedList
import Ectobase.Shared.NetPrefix

namespace Ectobase.Dispatch

open Shared

inductive ConditionStatus where
  | isTrue
  | isFalse
  deriving DecidableEq, Repr

structure Condition where
  type : String
  status : ConditionStatus
  reason : String
  message : String
  observedGeneration : Int
  deriving DecidableEq, Repr

-- meta.SetStatusCondition, and whether anything changed.
def setStatusCondition (conditions : List Condition) (new : Condition) : List Condition × Bool :=
  match conditions.find? (·.type == new.type) with
  | none => (conditions ++ [new], true)
  | some old =>
    if old = new then (conditions, false)
    else (conditions.map fun c => if c.type = new.type then new else c, true)

def isStatusConditionTrue (conditions : List Condition) (type : String) : Bool :=
  conditions.any fun c => c.type == type && c.status == .isTrue

structure FieldError where
  path : String
  value : String
  detail : String
  deriving DecidableEq, Repr

def FieldError.text (e : FieldError) : String :=
  e.path ++ ": Invalid value: " ++ e.value.quote ++ ": " ++ e.detail

def aggregateText : List FieldError -> String
  | [e] => e.text
  | errs => "[" ++ ", ".intercalate (errs.map FieldError.text) ++ "]"

-- resource.Quantity counted in its smallest unit.
abbrev Quantity := Int

structure ResourceList where
  entries : List (String × Quantity)
  nodup : (entries.map Prod.fst).Nodup
  deriving DecidableEq, Repr

namespace ResourceList

def empty : ResourceList where
  entries := []
  nodup := List.nodup_nil

def get (l : ResourceList) (name : String) : Option Quantity := l.entries.lookup name

def amount (l : ResourceList) (name : String) : Quantity := (l.get name).getD 0

def set (l : ResourceList) (name : String) (q : Quantity) : ResourceList where
  entries := putKey name q l.entries
  nodup := nodup_keys_putKey name q l.nodup

def add (cur requests : ResourceList) : ResourceList :=
  requests.entries.foldl (fun cur entry => cur.set entry.1 (cur.amount entry.1 + entry.2)) cur

end ResourceList

inductive Phase where
  | unset
  | pending
  | ready
  | unknown
  deriving DecidableEq, Repr

structure ClusterPoolLease where
  renewTime : Option Int
  deriving DecidableEq, Repr

structure NodeDrainStatus where
  pfx : String
  drained : Bool
  deriving DecidableEq, Repr

structure ClusterPoolStatus where
  phase : Phase
  conditions : List Condition
  allocatable : ResourceList
  lease : Option ClusterPoolLease
  nodePrefixes : List String
  fencedPrefixes : List String
  nodeDrain : List NodeDrainStatus
  deriving DecidableEq, Repr

structure ClusterPool where
  name : String
  resourceVersion : Nat
  generation : Int
  creationTimestamp : Int
  labels : List (String × String)
  underlayPrefix : String
  status : ClusterPoolStatus
  deriving DecidableEq, Repr

def ClusterPool.drainedPrefixes (pool : ClusterPool) : List String :=
  (pool.status.nodeDrain.filter (·.drained)).map (·.pfx)

def poolNamespace (clusterName : String) : String := "pool-" ++ clusterName

def phaseFromLease (now : Int) (lease : Option ClusterPoolLease) (healthStale : Int) : Phase :=
  match lease.bind ClusterPoolLease.renewTime with
  | none => .pending
  | some renewed => if now - renewed <= healthStale then .ready else .unknown

def reachable (pool : ClusterPool) (now healthStale : Int) : Bool :=
  decide (pool.status.phase = .ready) && decide (phaseFromLease now pool.status.lease healthStale = .ready)

lemma reachable_iff {pool : ClusterPool} {now healthStale : Int} :
  reachable pool now healthStale = true ↔ pool.status.phase = .ready /\
    ∃ renewed, pool.status.lease.bind ClusterPoolLease.renewTime = some renewed /\ now - renewed <= healthStale := by
  rw [reachable, Bool.and_eq_true, decide_eq_true_iff, decide_eq_true_iff]
  apply and_congr_right'
  unfold phaseFromLease
  split
  next missing => simp [missing]
  next renewed lease => simp [lease]

def poolLost (pool : ClusterPool) (now threshold : Int) : Bool := if pool.status.phase = .unknown then
  -- No timing information does not count as lost.
  match pool.status.lease.bind ClusterPoolLease.renewTime with
  | none => false
  | some renewed => decide (now - renewed > threshold)
  else false

def minUnderlayBitsV6 : Nat := 32

def minUnderlayBitsV4 : Nat := 16

def validateUnderlayPrefix (path s : String) : List FieldError := if s = "" then []
  else
    match NetPrefix.parse s with
    | none => [{ path, value := s, detail := "not a CIDR prefix" }]
    | some p =>
      if p.addr.is4In6 then
        [{ path, value := s,
           detail := "IPv4-mapped IPv6 is not allowed; write an IPv4 prefix" }]
      else if p.masked ≠ p then
        [{ path, value := s, detail := "has host bits set; the prefix is " ++ p.masked.text }]
      else if p.text ≠ s then
        [{ path, value := s, detail := "not in canonical form; write " ++ p.text }]
      else
        let minBits := if p.addr.isV4 then minUnderlayBitsV4 else minUnderlayBitsV6
        if p.bits < minBits then
          [{ path, value := s, detail := "too short: must be at least /" ++ toString minBits }]
        else []

def ClusterPool.DeclaresPrefix (pool : ClusterPool) : Prop :=
  pool.underlayPrefix ≠ "" /\ validateUnderlayPrefix "spec.underlayPrefix" pool.underlayPrefix = []

end Ectobase.Dispatch
