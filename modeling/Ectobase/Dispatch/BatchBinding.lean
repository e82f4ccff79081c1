import Ectobase.Dispatch.Binding
import Ectobase.Dispatch.FenceRelease

namespace Ectobase.Dispatch

open Shared List Option Prog Store

section

variable {S F : Type} [LinearOrder F] [Sub F] [Div F] [Zero F] [One F] (libs : Libraries F)

def batchPlan (w : World S) (lost : String) : List (VirtualMachine × Placement) :=
  let batch := w.vms.items.filter fun vm => vm.clusterName = lost
  batch.zip (scheduleBatch libs batch (w.pools.items.filter fun p => p.name ≠ lost))

variable (r : Reconciler F) (backend : StorageBackend S)

def rebindRun (lost : String) (outcome : Nat -> Outcome) (w : World S) : List String × Log (World S) Reply × World S :=
  (rebindPoolVMs r lost).run (serve backend) (fun _ w => w) outcome [] w

-- What is bound before the batch leaves room for it. On every pool it may go to, nothing bound there
-- requests the resource, or the pool offers what is bound there and the whole batch request; and no
-- VM bound there is of the group of a VM of the batch.
structure BatchFits (w : World S) (lost : String) : Prop where
  nonneg : ∀ vm ∈ w.vms.items, vm.clusterName = lost -> vm.requests.Nonneg
  room : ∀ pool ∈ w.pools.items, pool.name ≠ lost -> ∀ vm ∈ w.vms.items, vm.clusterName = lost ->
    ∀ entry ∈ vm.requests.entries, ∀ cap ∈ pool.status.allocatable.get entry.1,
      w.requested pool.name entry.1 <= 0 \/
        w.requested pool.name entry.1 + w.requested lost entry.1 <= cap
  apart : ∀ pool ∈ w.pools.items, pool.name ≠ lost -> ∀ vm ∈ w.vms.items, vm.clusterName = lost ->
    vm.group ≠ "" -> ∀ other ∈ w.vms.items, other.clusterName = pool.name -> other.group ≠ vm.group

def Replaces (plan : List (VirtualMachine × Placement)) (before : World S) (sent : VirtualMachine) :
  Prop :=
  ∃ item ∈ plan, item.2.ok = true /\ sent = { item.1 with clusterName := item.2.pool } /\
    BindRespects before sent (some item.2.violated)

def Rebinds (Q : World S -> VirtualMachine -> Prop) (log : Log (World S) Reply) : Prop :=
  ∀ e ∈ log, ∀ sent, e.call = .updateVM sent -> Q e.world sent

-- In the middle of the batch loop: what has landed of the VMs done is within what the batch has
-- counted, that with what is to come is within what the whole batch requests, and the VMs to come are
-- still on the lost pool.
structure Midway (first : World S) (lost : String) (state : Allocated × Occupancy × List Placement)
  (rest : List VirtualMachine) (w : World S) : Prop where
  pools : w.pools = first.pools
  counted : ∀ pool res, pool ≠ lost ->
    w.requested pool res <= first.requested pool res + (state.1.on pool).amount res
  within : ∀ pool res, (state.1.on pool).amount res +
    (rest.map fun vm => vm.requests.amount res).sum <= first.requested lost res
  grouped : ∀ vm ∈ w.vms.items, vm.clusterName ≠ lost -> vm.group ≠ "" ->
    (vm.clusterName, vm.group) ∈ state.2.1 \/
      ∃ old ∈ first.vms.items, old.clusterName = vm.clusterName /\ old.group = vm.group
  nonneg : ∀ vm ∈ rest, vm.requests.Nonneg
  waiting : ∀ vm ∈ rest, ∃ cur, w.vms.find vm.key = some cur /\ cur.clusterName = lost
  distinct : (rest.map VirtualMachine.key).Nodup

variable {first w : World S} {lost : String} {state : Allocated × Occupancy × List Placement} {rest : List VirtualMachine}

lemma Midway.status (midway : Midway first lost state rest w) (sent : VirtualMachine)
  (o : Outcome) : Midway first lost state rest (updateVMStatus w sent o).2 := by
  refine checked_keeps (Midway first lost state rest) midway fun cur found _ => ?_
  have named : cur.key = sent.key := find_key found
  refine ⟨midway.pools, fun pool res apart => ?_, midway.within, fun vm listed => ?_, midway.nonneg,
    fun vm later => ?_, midway.distinct⟩
  · rw [requested_storeVMStatus found]
    exact midway.counted pool res apart
  · rcases mem_put.mp listed with rfl | ⟨kept, -⟩
    · exact midway.grouped cur (mem_of_find found)
    · exact midway.grouped vm kept
  · obtain ⟨cur', found', there⟩ := midway.waiting vm later
    simp only [storeVMStatus, find_put]
    split
    next same =>
      have same' : cur' = cur := by
        rw [same, show ({ cur with
          resourceVersion := w.revision + 1, conditions := sent.conditions } : VirtualMachine).key
            = sent.key from named, found] at found'
        exact (some.inj found').symm
      exact ⟨_, rfl, same' ▸ there⟩
    · exact ⟨cur', found', there⟩

section

variable {libs : Libraries F} {candidates : List ClusterPool} {vm : VirtualMachine}

variable (libs candidates) in
lemma Midway.left_out (midway : Midway first lost state (vm :: rest) w) :
  Midway first lost (batchStep libs candidates state vm) rest w where
  pools := midway.pools
  counted pool res apart := (midway.counted pool res apart).trans
    (Int.add_le_add_left (batchStep_amount_le (midway.nonneg vm mem_cons_self) pool res) _)
  within pool res :=
    (batchStep_within (midway.nonneg vm mem_cons_self) rest pool res).trans (midway.within pool res)
  grouped vm listed apart grouped :=
    (midway.grouped vm listed apart grouped).imp_left batchStep_occupancy
  nonneg vm later := midway.nonneg vm (mem_cons_of_mem _ later)
  waiting vm later := midway.waiting vm (mem_cons_of_mem _ later)
  distinct := (nodup_cons.mp midway.distinct).2

lemma Midway.landed (midway : Midway first lost state (vm :: rest) w) {cur : VirtualMachine}
  (found : w.vms.find vm.key = some cur)
  (placed : (scheduleAntiAffine libs vm candidates state.1 state.2.1).ok = true) :
  Midway first lost (batchStep libs candidates state vm) rest (storeVM w { vm with
      clusterName := (scheduleAntiAffine libs vm candidates state.1 state.2.1).pool } cur).2 := by
  obtain ⟨cur', found', there⟩ := midway.waiting vm mem_cons_self
  obtain rfl : cur' = cur := mem_unique found' found
  obtain ⟨fresh, distinct⟩ := nodup_cons.mp midway.distinct
  refine { midway.left_out libs candidates with
    counted pool res apart := ?_, grouped other listed away group := ?_, waiting other later := ?_ }
  · have elsewhere : cur'.clusterName ≠ pool := there ▸ Ne.symm apart
    have sum := requested_storeVM { vm with
      clusterName := (scheduleAntiAffine libs vm candidates state.1 state.2.1).pool }
      found elsewhere res
    rw [sum, batchStep_amount, <- add_assoc]
    simp only [placed, true_and]
    exact Int.add_le_add_right (midway.counted pool res apart) _
  · rcases mem_put.mp listed with rfl | ⟨kept, -⟩
    · exact .inl (batchStep_occupies placed group)
    · exact (midway.grouped other kept away group).imp_left batchStep_occupancy
  · obtain ⟨cur, found, there⟩ := midway.waiting other (mem_cons_of_mem _ later)
    have apart : other.key ≠ vm.key := fun same => fresh (same ▸ mem_map_of_mem later)
    refine ⟨cur, ?_, there⟩
    simp only [storeVM, find_put]
    rw [if_neg apart]
    exact found

lemma Midway.respects (midway : Midway first lost state (vm :: rest) w) (fits : BatchFits first lost)
  (member : vm ∈ first.vms.items) (there : vm.clusterName = lost)
  (among : ∀ p ∈ candidates, p ∈ first.pools.items /\ p.name ≠ lost)
  (placed : (scheduleAntiAffine libs vm candidates state.1 state.2.1).ok = true) :
  BindRespects w { vm with
      clusterName := (scheduleAntiAffine libs vm candidates state.1 state.2.1).pool }
    (some (scheduleAntiAffine libs vm candidates state.1 state.2.1).violated) := by
  intro _ cur stored
  have after := midway.landed stored placed
  obtain ⟨p, candidate, named, -, score, fit⟩ := scheduleAntiAffine_ok placed
  obtain ⟨listed, apart⟩ := among p candidate
  constructor
  · refine ⟨p, ?_, fun entry requested => ?_⟩
    · rw [after.pools]
      exact named ▸ find_of_mem listed
    · obtain ⟨cap, offered, fit⟩ := fitScore_fits fit requested
      refine ⟨cap, offered, (after.counted _ entry.1 (named ▸ apart)).trans ?_⟩
      rw [<- named]
      rcases fits.room p listed apart vm member there entry requested cap offered with idle | room
      · -- On an idle pool the batch's own count is all there is.
        refine (Int.add_le_add_right idle _).trans ?_
        rw [zero_add, batchStep_amount, if_pos ⟨placed, named.symm⟩,
          ResourceList.amount_of_mem requested]
        exact fit
      · refine (Int.add_le_add_left ?_ _).trans room
        refine (le_add_of_nonneg_right (sum_nonneg fun q listed => ?_)).trans (after.within p.name entry.1)
        obtain ⟨later, member, rfl⟩ := List.mem_map.mp listed
        exact (after.nonneg later member).amount entry.1
  · intro clean grouped other found distinct same together
    have clean := some.inj clean
    have same : other.clusterName = (scheduleAntiAffine libs vm candidates state.1 state.2.1).pool := same
    have together : other.group = vm.group := together
    rcases mem_put.mp found with rfl | ⟨kept, -⟩
    · exact distinct rfl
    · have away : other.clusterName ≠ lost := by
        rw [same, <- named]
        exact apart
      rcases midway.grouped other kept away (together ▸ grouped) with earlier | ⟨old, was, at_, group⟩
      · refine scheduleAntiAffine_clean placed clean grouped ?_
        rw [<- together, <- same]
        exact earlier
      · exact fits.apart p listed apart vm member there grouped old was
          (at_.trans (same.trans named.symm)) (group.trans together)

end

lemma rebinds_cons {Q : World S -> VirtualMachine -> Prop} {e : Answered (World S) Reply} {log : Log (World S) Reply} :
  Rebinds Q (e :: log) ↔ (∀ sent, e.call = .updateVM sent -> Q e.world sent) /\ Rebinds Q log :=
  forall_mem_cons

lemma rebindOne_midway {vm : VirtualMachine} {candidates : List ClusterPool}
  (outcome : Nat -> Outcome) {log : Log (World S) Reply} (errs : List String)
  (midway : Midway first lost state (vm :: rest) w)
  {Q : World S -> VirtualMachine -> Prop} (sofar : Rebinds Q log)
  (right : (scheduleAntiAffine r.libs vm candidates state.1 state.2.1).ok = true -> Q w { vm with
    clusterName := (scheduleAntiAffine r.libs vm candidates state.1 state.2.1).pool }) :
  let out := (rebindOne errs (vm, scheduleAntiAffine r.libs vm candidates state.1 state.2.1)).run
    (serve backend) (fun _ w => w) outcome log w
  Rebinds Q out.2.1 /\ Midway first lost (batchStep r.libs candidates state vm) rest out.2.2 := by
  unfold rebindOne
  dsimp only
  split
  next failed =>
    rw [run_bind, block, Ask.updateVMStatus, run_ask]
    have after := (midway.left_out r.libs candidates).status
    split <;> exact ⟨rebinds_cons.mpr ⟨nofun, sofar⟩, after _ _⟩
  next accepted =>
    have placed : (scheduleAntiAffine r.libs vm candidates state.1 state.2.1).ok = true := by
      simpa using accepted
    rw [run_bind, Ask.updateVM, run_ask]
    generalize sent : ({ vm with clusterName := _ } : VirtualMachine) = vm'
    have asked : Rebinds Q (⟨w, .updateVM vm', (serve backend w (.updateVM vm') (outcome log.length)).1⟩ :: log) :=
      rebinds_cons.mpr ⟨fun _ same => Call.updateVM.inj same ▸ sent ▸ right placed, sofar⟩
    -- Whatever becomes of the write, the loop goes on with the batch's own count.
    have after : Midway first lost (batchStep r.libs candidates state vm) rest
      (serve backend w (.updateVM vm') (outcome log.length)).2 := by
      subst sent
      exact checked_keeps (Midway first lost (batchStep r.libs candidates state vm) rest)
        (midway.left_out r.libs candidates) fun cur found _ => midway.landed found placed
    split
    · exact ⟨asked, after⟩
    · rw [run_bind, Ask.updateVMStatus, run_ask]
      split <;> exact ⟨rebinds_cons.mpr ⟨nofun, asked⟩, after.status _ _⟩

lemma rebindLoop_respects (fits : BatchFits w lost) {outcome : Nat -> Outcome}
  {log : Log (World S) Reply} (sofar : Rebinds (Replaces (batchPlan r.libs w lost)) log) :
  Rebinds (Replaces (batchPlan r.libs w lost))
    (((batchPlan r.libs w lost).foldlM rebindOne []).run (serve backend) (fun _ w => w) outcome log w).2.1 := by
  let candidates := w.pools.items.filter fun p => p.name ≠ lost
  have among : ∀ p ∈ candidates, p ∈ w.pools.items /\ p.name ≠ lost := by
    simp [candidates, mem_filter]
  -- The items to come are the batch's decisions for the VMs to come.
  let inv (items : List (VirtualMachine × Placement)) (log : Log (World S) Reply) (now : World S) :
      Prop :=
    ∃ state rest, items = rest.zip (decisions r.libs candidates state rest) /\
      Midway w lost state rest now /\ (∀ vm ∈ rest, vm ∈ w.vms.items /\ vm.clusterName = lost) /\
      items ⊆ batchPlan r.libs w lost /\ Rebinds (Replaces (batchPlan r.libs w lost)) log
  have start : inv (batchPlan r.libs w lost) log w := by
    have lost_here : ∀ vm ∈ w.vms.items.filter fun vm => vm.clusterName = lost,
      vm ∈ w.vms.items /\ vm.clusterName = lost := by simp [mem_filter]
    refine ⟨([], [], []), w.vms.items.filter fun vm => vm.clusterName = lost, ?_, ?_, lost_here, List.Subset.refl _, sofar⟩
    · rw [batchPlan, scheduleBatch_eq]
    · refine ⟨rfl, fun pool res _ => ?_, fun pool res => ?_, fun vm listed _ _ => .inr ⟨vm, listed, rfl, rfl⟩,
        fun vm listed => fits.nonneg vm (lost_here vm listed).1 (lost_here vm listed).2,
        fun vm listed => ⟨vm, find_of_mem (lost_here vm listed).1, (lost_here vm listed).2⟩,
        w.vms.nodup.sublist (filter_sublist.map _)⟩
      · simp [Allocated.on, ResourceList.amount, ResourceList.get, ResourceList.empty]
      · simp [Allocated.on, ResourceList.amount, ResourceList.get, ResourceList.empty, World.requested, demand]
  suffices step : ∀ item items errs log now, inv (item :: items) log now ->
    inv items ((rebindOne errs item).run (serve backend) (fun _ w => w) outcome log now).2.1
      ((rebindOne errs item).run (serve backend) (fun _ w => w) outcome log now).2.2 by
    obtain ⟨_, _, _, _, _, _, done⟩ := run_foldlM (serve backend) inv step [] start
    exact done
  rintro item items errs log now ⟨state, rest, split, midway, batch, planned, sofar⟩
  cases rest with
  | nil => simp at split
  | cons vm rest =>
    rw [decisions, zip_cons_cons] at split
    obtain ⟨rfl, rfl⟩ := cons.inj split
    obtain ⟨member, there⟩ := batch vm mem_cons_self
    have turn := rebindOne_midway r backend outcome errs midway sofar fun placed =>
      ⟨_, planned mem_cons_self, placed, rfl, midway.respects fits member there among placed⟩
    exact ⟨_, rest, rfl, turn.2, fun vm later => batch vm (mem_cons_of_mem _ later),
      fun item member => planned (mem_cons_of_mem _ member), turn.1⟩

lemma rebindRun_respects (fits : BatchFits w lost) (outcome : Nat -> Outcome) :
  Rebinds (Replaces (batchPlan r.libs w lost)) (rebindRun r backend lost outcome w).2.1 := by
  unfold rebindRun rebindPoolVMs
  rw [run_bind, Ask.listVMs, run_ask]
  split
  · simp [Rebinds]
  next vms gotVMs =>
    obtain rfl : vms = w.vms.items := Outcome.answer_ok gotVMs
    rw [run_bind, Ask.listPools, run_ask]
    split
    · simp [Rebinds]
    next pools gotPools =>
      have quiet (o : Outcome) : (serve backend w .listVMs o).2 = w := Outcome.answer_same _ _ _
      rw [quiet] at gotPools ⊢
      obtain rfl : pools = w.pools.items := Outcome.answer_ok gotPools
      have quiet (o : Outcome) : (serve backend w .listPools o).2 = w := Outcome.answer_same _ _ _
      rw [quiet]
      exact rebindLoop_respects r backend fits (by simp [Rebinds])

end

inductive Turn (S : Type) where
  | bind (key : String × String) (outcome : Nat -> Outcome)
  | failover (lost : String) (outcome : Nat -> Outcome)
  | other (change : Cluster S -> Cluster S)

section

variable {S F : Type} [LinearOrder F] [Sub F] [Div F] [Zero F] [One F] (r : Reconciler F) (backend : StorageBackend S)

def Turn.apply (c : Cluster S) : Turn S -> Cluster S
  | .bind key outcome => (bindRun r.libs key outcome c).2.2
  | .failover lost outcome => { c with world := (rebindRun r backend lost outcome c.world).2.2 }
  | .other change => change c

def BindsRespect (c : Cluster S) : Turn S -> Prop
  | .bind key outcome =>
    Binds (fun before sent => BindRespects before.world sent none) (bindRun r.libs key outcome c).2.1
  | .failover lost outcome =>
    Rebinds (Replaces (batchPlan r.libs c.world lost)) (rebindRun r backend lost outcome c.world).2.1
  | .other _ => True

def CommitmentsFit (c : Cluster S) : Turn S -> Prop
  | .bind _ _ => ∀ container ∈ c.containers, container.requests.Nonneg
  | .failover lost _ => BatchFits c.world lost
  | .other _ => True

end

def cpus (amount : Quantity) : ResourceList where
  entries := [("cpu", amount)]
  nodup := nodup_singleton _

def cpuVM (name pool group : String) (amount : Quantity) : VirtualMachine :=
  { boundVM pool with name, requests := cpus amount, antiAffinity := some group }

def tenCpuPool (name : String) (phase : Phase) : ClusterPool := let pool := idlePool name "" phase
  { pool with status := { pool.status with allocatable := cpus 10 } }

def oldAndNew (old new : VirtualMachine) : Cluster (List (String × String)) where
  world := { lostWorld [] with
      pools := (empty.put (tenCpuPool "a" .unknown)).put (tenCpuPool "b" .ready)
      vms := (empty.put old).put new }
  containers := []

def bindThenFailover : List (Turn (List (String × String))) :=
  [.bind ("tenant", "new") fun _ => .normal, .failover "a" fun _ => .normal]

def rebound : Call -> Option VirtualMachine
  | .updateVM vm => some vm
  | _ => none

lemma rebound_eq_some {c : Call} {vm : VirtualMachine} (rebinds : rebound c = some vm) : c = .updateVM vm := by
  cases c with
  | updateVM sent => exact congrArg Call.updateVM (some.inj rebinds)
  | _ => cases rebinds

end Ectobase.Dispatch
