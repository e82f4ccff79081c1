import Mathlib.Data.List.Sort
import Ectobase.Dispatch.ClusterPool

namespace Ectobase.Dispatch

open Shared List Option

structure LabelSelectorRequirement where
  key : String
  operator : String
  values : List String
  deriving DecidableEq, Repr

structure LabelSelector where
  matchLabels : List (String × String)
  matchExpressions : List LabelSelectorRequirement
  deriving DecidableEq, Repr

structure VirtualMachine where
  namespace_ : String
  name : String
  resourceVersion : Nat
  generation : Int
  clusterName : String
  requests : ResourceList
  poolSelector : Option LabelSelector
  antiAffinity : Option String
  conditions : List Condition
  deriving DecidableEq, Repr

structure Container where
  clusterName : String
  requests : ResourceList
  deriving DecidableEq, Repr

structure Libraries (F : Type) where
  asSelector : LabelSelector -> Except String (List (String × String) -> Bool)
  approximate : Quantity -> F

section

variable {F : Type} [LinearOrder F] [Sub F] [Div F] [Zero F] [One F] (libs : Libraries F)

def fitStep (allocatable used : ResourceList) (minFree : F) (entry : String × Quantity) : Option F := do
  let cap <- allocatable.get entry.1
  let need := used.amount entry.1 + entry.2
  if need > cap then none
  else
    let capv := libs.approximate cap
    let needv := libs.approximate need
    let free := if capv > 0 then (capv - needv) / capv else 1
    some (if free < minFree then free else minFree)

def fitScore (req allocatable used : ResourceList) : Option F :=
  req.entries.foldlM (fitStep libs allocatable used) 1

abbrev Allocated := List (String × ResourceList)

def Allocated.on (allocated : Allocated) (pool : String) : ResourceList :=
  (allocated.lookup pool).getD .empty

def candidateBefore (a b : String × F) : Prop := a.2 > b.2 \/ (a.2 = b.2 /\ a.1 <= b.1)

instance (a b : String × F) : Decidable (candidateBefore a b) :=
  inferInstanceAs (Decidable (_ \/ _))

def scheduleWorkload (requests : ResourceList) (poolSelector : Option LabelSelector)
  (pools : List ClusterPool) (allocated : Allocated) : Except String String :=
  match poolSelector.mapM libs.asSelector with
  | .error e => .error ("invalid poolSelector: " ++ e)
  | .ok selects =>
    let candidates := pools.filterMap fun p =>
      if p.status.phase = .ready /\ (selects.all fun sel => sel p.labels) then
        (fitScore libs requests p.status.allocatable (allocated.on p.name)).map fun score => (p.name, score)
      else none
    match candidates.insertionSort candidateBefore with
    | [] => .error "no Ready pool fits the request"
    | best :: _ => .ok best.1

def schedule (vm : VirtualMachine) (pools : List ClusterPool) (allocated : Allocated) : Except String String :=
  scheduleWorkload libs vm.requests vm.poolSelector pools allocated

abbrev Occupancy := List (String × String)

def VirtualMachine.group (vm : VirtualMachine) : String := vm.antiAffinity.getD ""

structure Placement where
  pool : String
  violated : Bool
  ok : Bool
  reason : String
  deriving DecidableEq, Repr

def Placement.of (violated : Bool) : Except String String -> Placement
  | .ok pool => { pool, violated, ok := true, reason := "" }
  | .error reason => { pool := "", violated := false, ok := false, reason }

def scheduleAntiAffine (vm : VirtualMachine) (pools : List ClusterPool) (allocated : Allocated)
  (occupancy : Occupancy) : Placement :=
  if vm.group = "" then .of false (schedule libs vm pools allocated)
  else
    let clean := pools.filter fun p => (p.name, vm.group) ∉ occupancy
    match schedule libs vm clean allocated with
    | .ok pool => .of false (.ok pool)
    -- Any fitting pool will do rather than none: a placement here is a violation.
    | .error _ => .of true (schedule libs vm pools allocated)

def commit (allocated : Allocated) (pool : String) (requests : ResourceList) : Allocated :=
  putKey pool ((allocated.on pool).add requests) allocated

def batchStep (pools : List ClusterPool) (state : Allocated × Occupancy × List Placement)
  (vm : VirtualMachine) : Allocated × Occupancy × List Placement :=
  let (allocated, occupancy, out) := state
  let placement := scheduleAntiAffine libs vm pools allocated occupancy
  if placement.ok then
    (commit allocated placement.pool vm.requests,
      if vm.group = "" then occupancy else (placement.pool, vm.group) :: occupancy,
      out ++ [placement])
  else (allocated, occupancy, out ++ [placement])

def scheduleBatch (vms : List VirtualMachine) (pools : List ClusterPool) : List Placement :=
  (vms.foldl (batchStep libs pools) ([], [], [])).2.2

end

def addAllocation (out : Allocated) (pool : String) (requests : ResourceList) : Allocated :=
  if pool = "" then out else commit out pool requests

def allocatedByPool (vms : List VirtualMachine) (containers : List Container) : Allocated :=
  let byVM := vms.foldl (fun out v => addAllocation out v.clusterName v.requests) []
  containers.foldl (fun out c => addAllocation out c.clusterName c.requests) byVM

section

variable {F : Type} [LinearOrder F] [Sub F] [Div F] [Zero F] [One F] {libs : Libraries F}

lemma fitStep_fits {allocatable used : ResourceList} {minFree score : F} {entry : String × Quantity}
  (fits : fitStep libs allocatable used minFree entry = some score) :
  ∃ cap, allocatable.get entry.1 = some cap /\ used.amount entry.1 + entry.2 <= cap := by
  simp only [fitStep, bind_eq_bind, bind_eq_some_iff] at fits
  obtain ⟨cap, offered, kept⟩ := fits
  refine ⟨cap, offered, ?_⟩
  by_contra short
  simp [not_le.mp short] at kept

lemma fitScore_fits {req allocatable used : ResourceList} {score : F}
  (fits : fitScore libs req allocatable used = some score) {entry : String × Quantity}
  (requested : entry ∈ req.entries) :
  ∃ cap, allocatable.get entry.1 = some cap /\ used.amount entry.1 + entry.2 <= cap := by
  have all : ∀ (entries : List (String × Quantity)) (start : F),
    entries.foldlM (fitStep libs allocatable used) start = some score -> entry ∈ entries ->
    ∃ cap, allocatable.get entry.1 = some cap /\ used.amount entry.1 + entry.2 <= cap := by
    intro entries
    induction entries with
    | nil => exact fun _ _ absent => absurd absent not_mem_nil
    | cons first rest ih =>
      intro start folded member
      rw [foldlM_cons, bind_eq_bind, bind_eq_some_iff] at folded
      obtain ⟨low, stepped, later⟩ := folded
      rcases mem_cons.mp member with here | there
      · rw [here]
        exact fitStep_fits stepped
      · exact ih low later there
  exact all req.entries 1 fits requested

lemma scheduleWorkload_ok {requests : ResourceList} {poolSelector : Option LabelSelector}
  {pools : List ClusterPool} {allocated : Allocated} {pool : String}
  (chosen : scheduleWorkload libs requests poolSelector pools allocated = .ok pool) :
  ∃ p ∈ pools, p.name = pool /\ p.status.phase = .ready /\
    ∃ score, fitScore libs requests p.status.allocatable (allocated.on p.name) = some score := by
  unfold scheduleWorkload at chosen
  split at chosen
  · cases chosen
  next selects compiled =>
    dsimp only at chosen
    split at chosen
    · cases chosen
    next best others sorted =>
      have listed := (perm_insertionSort candidateBefore _).mem_iff.mp (sorted ▸ mem_cons_self)
      obtain ⟨p, member, candidate⟩ := mem_filterMap.mp listed
      split at candidate
      next eligible =>
        obtain ⟨score, fits, rfl⟩ := map_eq_some_iff.mp candidate
        exact ⟨p, member, Except.ok.inj chosen, eligible.1, score, fits⟩
      · cases candidate

lemma scheduleAntiAffine_ok {vm : VirtualMachine} {pools : List ClusterPool} {allocated : Allocated} {occupancy : Occupancy}
  (placed : (scheduleAntiAffine libs vm pools allocated occupancy).ok = true) :
  ∃ p ∈ pools, p.name = (scheduleAntiAffine libs vm pools allocated occupancy).pool /\ p.status.phase = .ready /\
    ∃ score, fitScore libs vm.requests p.status.allocatable (allocated.on p.name) = some score := by
  obtain ⟨violated, among, sub, same⟩ : ∃ violated among, among ⊆ pools /\
      scheduleAntiAffine libs vm pools allocated occupancy = Placement.of violated (schedule libs vm among allocated) := by
    unfold scheduleAntiAffine
    split
    · exact ⟨false, pools, List.Subset.refl pools, rfl⟩
    · dsimp only
      split
      next pool tried => exact ⟨false, _, filter_subset_self _, by rw [tried]⟩
      · exact ⟨true, pools, List.Subset.refl pools, rfl⟩
  rw [same] at placed ⊢
  cases result : schedule libs vm among allocated with
  | error reason => simp [result, Placement.of] at placed
  | ok pool =>
    obtain ⟨p, member, named, ready, fits⟩ := scheduleWorkload_ok result
    exact ⟨p, sub member, named, ready, fits⟩

lemma batchStep_placements (pools : List ClusterPool) (state : Allocated × Occupancy × List Placement) (vm : VirtualMachine) :
  (batchStep libs pools state vm).2.2 = state.2.2 ++ [scheduleAntiAffine libs vm pools state.1 state.2.1] := by
  obtain ⟨allocated, occupancy, out⟩ := state
  unfold batchStep
  dsimp only
  split <;> rfl

lemma scheduleBatch_decided {vms : List VirtualMachine} {pools : List ClusterPool}
  {placement : Placement} (listed : placement ∈ scheduleBatch libs vms pools) :
  ∃ vm allocated occupancy, placement = scheduleAntiAffine libs vm pools allocated occupancy := by
  have kept : ∀ (rest : List VirtualMachine) (state : Allocated × Occupancy × List Placement),
    placement ∈ (rest.foldl (batchStep libs pools) state).2.2 -> placement ∈ state.2.2 \/
      ∃ vm allocated occupancy, placement = scheduleAntiAffine libs vm pools allocated occupancy := by
    intro rest
    induction rest with
    | nil => exact fun _ member => .inl member
    | cons vm rest ih =>
      intro state member
      rcases ih _ member with before | decided
      · rw [batchStep_placements, mem_append, mem_singleton] at before
        exact before.imp_right fun here => ⟨vm, state.1, state.2.1, here⟩
      · exact .inr decided
  exact (kept vms ([], [], []) listed).resolve_left (by simp)

end

end Ectobase.Dispatch
