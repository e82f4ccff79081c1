import Ectobase.Dispatch.Scheduler
import Mathlib.Algebra.Order.BigOperators.Group.List

namespace Ectobase.Dispatch

open Shared List

namespace ResourceList

lemma amount_set (l : ResourceList) (name res : String) (q : Quantity) :
  (l.set name q).amount res = if res = name then q else l.amount res := by
  simp only [amount, get, set, lookup_putKey]
  split <;> rfl

lemma amount_add (cur requests : ResourceList) (res : String) :
  (cur.add requests).amount res = cur.amount res + requests.amount res := by
  have fold (entries : List (String × Quantity)) (nodup : (entries.map Prod.fst).Nodup) (cur : ResourceList) :
    (entries.foldl (fun cur entry => cur.set entry.1 (cur.amount entry.1 + entry.2))
      cur).amount res = cur.amount res + (entries.lookup res).getD 0 := by
    induction entries generalizing cur with
    | nil => simp
    | cons entry rest ih =>
      rw [map_cons, nodup_cons] at nodup
      rw [foldl_cons, ih nodup.2, amount_set, lookup_cons_ite]
      split
      next here =>
        subst here
        simp [lookup_eq_none_of_notMem nodup.1]
      · rfl
  exact fold requests.entries requests.nodup cur

variable {l : ResourceList}

lemma amount_of_mem {entry : String × Quantity} (listed : entry ∈ l.entries) : l.amount entry.1 = entry.2 := by
  have found (entries : List (String × Quantity)) (nodup : (entries.map Prod.fst).Nodup)
    (listed : entry ∈ entries) : entries.lookup entry.1 = some entry.2 := by
    induction entries with
    | nil => cases listed
    | cons first rest ih =>
      rw [map_cons, nodup_cons] at nodup
      rw [lookup_cons_ite]
      rcases mem_cons.mp listed with here | later
      · rw [here, if_pos rfl]
      · have apart : entry.1 ≠ first.1 := fun same => nodup.1 (same ▸ mem_map_of_mem later)
        rw [if_neg apart, ih nodup.2 later]
  simp [amount, get, found l.entries l.nodup listed]

def Nonneg (l : ResourceList) : Prop := ∀ entry ∈ l.entries, 0 <= entry.2

instance (l : ResourceList) : Decidable l.Nonneg :=
  inferInstanceAs (Decidable (∀ entry ∈ l.entries, 0 <= entry.2))

lemma mem_of_get {name : String} {q : Quantity} (found : l.get name = some q) : (name, q) ∈ l.entries := by
  obtain ⟨before, after, whole, -⟩ := lookup_eq_some_iff.mp found
  rw [whole]
  simp

lemma Nonneg.amount (nonneg : l.Nonneg) (res : String) : 0 <= l.amount res := by
  cases found : l.get res with
  | none => simp [ResourceList.amount, found]
  | some q =>
    rw [amount_of_mem (mem_of_get found)]
    exact nonneg _ (mem_of_get found)

end ResourceList

def demand {A : Type} (place : A -> String) (requests : A -> ResourceList) (items : List A) (pool res : String) : Quantity :=
  ((items.filter fun a => place a = pool).map fun a => (requests a).amount res).sum

section

variable {A : Type} {place : A -> String} {requests : A -> ResourceList}

lemma demand_eq_sum (items : List A) (pool res : String) : demand place requests items pool res =
    (items.map fun a => if place a = pool then (requests a).amount res else 0).sum := by
  unfold demand
  induction items with
  | nil => rfl
  | cons first rest ih =>
    by_cases here : place first = pool <;> simp [here, ih]

lemma demand_nonneg {items : List A} (nonneg : ∀ a ∈ items, (requests a).Nonneg)
  (pool res : String) : 0 <= demand place requests items pool res := by
  refine sum_nonneg fun q listed => ?_
  obtain ⟨a, member, rfl⟩ := mem_map.mp listed
  exact (nonneg a (mem_of_mem_filter member)).amount res

end

lemma commit_on (allocated : Allocated) (pool other : String) (requests : ResourceList) :
  (commit allocated pool requests).on other =
    if other = pool then (allocated.on pool).add requests else allocated.on other := by
  simp only [commit, Allocated.on, lookup_putKey]
  split <;> rfl

lemma commit_amount (allocated : Allocated) (pool other res : String) (requests : ResourceList) :
  ((commit allocated pool requests).on other).amount res =
    (allocated.on other).amount res + if pool = other then requests.amount res else 0 := by
  rw [commit_on]
  split
  next same => rw [same, ResourceList.amount_add, if_pos rfl]
  next apart => rw [if_neg (Ne.symm apart), add_zero]

lemma foldl_addAllocation {A : Type} (place : A -> String) (requests : A -> ResourceList)
  (items : List A) (out : Allocated) {pool : String} (named : pool ≠ "") (res : String) :
  ((items.foldl (fun out a => addAllocation out (place a) (requests a)) out).on pool).amount res =
    (out.on pool).amount res + demand place requests items pool res := by
  rw [demand_eq_sum]
  induction items generalizing out with
  | nil => simp
  | cons first rest ih =>
    rw [foldl_cons, ih, map_cons, sum_cons, addAllocation]
    split
    next unbound => simp [unbound, Ne.symm named]
    · rw [commit_amount, add_assoc]

lemma allocatedByPool_amount (vms : List VirtualMachine) (containers : List Container)
  {pool : String} (named : pool ≠ "") (res : String) :
  ((allocatedByPool vms containers).on pool).amount res =
    demand VirtualMachine.clusterName VirtualMachine.requests vms pool res +
      demand Container.clusterName Container.requests containers pool res := by
  unfold allocatedByPool
  rw [foldl_addAllocation _ _ _ _ named, foldl_addAllocation _ _ _ _ named]
  simp [Allocated.on, ResourceList.amount, ResourceList.get, ResourceList.empty]

section

variable {F : Type} [LinearOrder F] [Sub F] [Div F] [Zero F] [One F] {libs : Libraries F}

lemma scheduleAntiAffine_clean {vm : VirtualMachine} {pools : List ClusterPool}
  {allocated : Allocated} {occupancy : Occupancy}
  (placed : (scheduleAntiAffine libs vm pools allocated occupancy).ok = true)
  (clean : (scheduleAntiAffine libs vm pools allocated occupancy).violated = false)
  (grouped : vm.group ≠ "") :
  ((scheduleAntiAffine libs vm pools allocated occupancy).pool, vm.group) ∉ occupancy := by
  unfold scheduleAntiAffine at placed clean ⊢
  rw [if_neg grouped] at placed clean ⊢
  dsimp only at placed clean ⊢
  cases tried : schedule libs vm (pools.filter fun p => (p.name, vm.group) ∉ occupancy) allocated with
  | ok pool =>
    obtain ⟨p, member, named, -⟩ := scheduleWorkload_ok tried
    have free := (mem_filter.mp member).2
    rw [named] at free
    simpa [Placement.of] using free
  | error reason =>
    rw [tried] at placed clean
    cases anywhere : schedule libs vm pools allocated with
    | ok pool => simp [anywhere, Placement.of] at clean
    | error reason => simp [anywhere, Placement.of] at placed

def decisions (libs : Libraries F) (pools : List ClusterPool) :
  Allocated × Occupancy × List Placement -> List VirtualMachine -> List Placement
  | _, [] => []
  | state, vm :: rest =>
    scheduleAntiAffine libs vm pools state.1 state.2.1 :: decisions libs pools (batchStep libs pools state vm) rest

lemma foldl_batchStep_placements (pools : List ClusterPool) (vms : List VirtualMachine)
  (state : Allocated × Occupancy × List Placement) :
  (vms.foldl (batchStep libs pools) state).2.2 = state.2.2 ++ decisions libs pools state vms := by
  induction vms generalizing state with
  | nil => simp [decisions]
  | cons vm rest ih =>
    rw [foldl_cons, ih, batchStep_placements, decisions, append_assoc, singleton_append]

lemma scheduleBatch_eq (vms : List VirtualMachine) (pools : List ClusterPool) :
  scheduleBatch libs vms pools = decisions libs pools ([], [], []) vms := by
  rw [scheduleBatch, foldl_batchStep_placements, nil_append]

variable {pools : List ClusterPool} {state : Allocated × Occupancy × List Placement} {vm : VirtualMachine}

lemma batchStep_amount (pool res : String) :
  ((batchStep libs pools state vm).1.on pool).amount res = (state.1.on pool).amount res +
    if (scheduleAntiAffine libs vm pools state.1 state.2.1).ok = true /\
      (scheduleAntiAffine libs vm pools state.1 state.2.1).pool = pool
    then vm.requests.amount res else 0 := by
  obtain ⟨allocated, occupancy, out⟩ := state
  unfold batchStep
  dsimp only
  split
  next placed => simp only [commit_amount, placed, true_and]
  next failed => simp [failed]

lemma batchStep_amount_le (nonneg : vm.requests.Nonneg) (pool res : String) :
  (state.1.on pool).amount res <= ((batchStep libs pools state vm).1.on pool).amount res := by
  rw [batchStep_amount]
  refine le_add_of_nonneg_right ?_
  split
  · exact nonneg.amount res
  · exact le_refl 0

lemma batchStep_within (nonneg : vm.requests.Nonneg) (rest : List VirtualMachine) (pool res : String) :
  ((batchStep libs pools state vm).1.on pool).amount res + (rest.map fun vm => vm.requests.amount res).sum <=
    (state.1.on pool).amount res + ((vm :: rest).map fun vm => vm.requests.amount res).sum := by
  rw [batchStep_amount, map_cons, sum_cons, add_assoc]
  refine Int.add_le_add_left (Int.add_le_add_right ?_ _) _
  split
  · exact le_refl _
  · exact nonneg.amount res

lemma batchStep_occupancy {pair : String × String} (counted : pair ∈ state.2.1) :
  pair ∈ (batchStep libs pools state vm).2.1 := by
  obtain ⟨allocated, occupancy, out⟩ := state
  unfold batchStep
  dsimp only
  split
  · split
    · exact counted
    · exact mem_cons_of_mem _ counted
  · exact counted

lemma batchStep_occupies (placed : (scheduleAntiAffine libs vm pools state.1 state.2.1).ok = true) (grouped : vm.group ≠ "") :
  ((scheduleAntiAffine libs vm pools state.1 state.2.1).pool, vm.group) ∈ (batchStep libs pools state vm).2.1 := by
  obtain ⟨allocated, occupancy, out⟩ := state
  unfold batchStep
  dsimp only at placed ⊢
  rw [if_pos placed, if_neg grouped]
  exact mem_cons_self

end

end Ectobase.Dispatch
