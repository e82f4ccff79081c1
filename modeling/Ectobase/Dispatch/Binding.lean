import Ectobase.Dispatch.Commitments
import Ectobase.Dispatch.FailoverCalls

namespace Ectobase.Dispatch

open Shared Prog

inductive BindCall where
  | getVM (key : String × String)
  | listPools
  | listVMs
  | listContainers
  | updateVM (vm : VirtualMachine)
  | updateVMStatus (vm : VirtualMachine)

abbrev BindReply : BindCall -> Type
  | .getVM _ | .updateVM _ | .updateVMStatus _ => Except ApiError VirtualMachine
  | .listPools => Except ApiError (List ClusterPool)
  | .listVMs => Except ApiError (List VirtualMachine)
  | .listContainers => Except ApiError (List Container)

structure Cluster (S : Type) where
  world : World S
  containers : List Container

section

variable {S : Type}

def serveBind : Serve (Cluster S) Outcome BindReply
  | c, .getVM key, o =>
    match c.world.vms.find key with
    | none => (.error .notFound, c)
    | some vm => o.answer vm c c
  | c, .listPools, o => o.answer c.world.pools.items c c
  | c, .listVMs, o => o.answer c.world.vms.items c c
  | c, .listContainers, o => o.answer c.containers c c
  | c, .updateVM vm, o =>
    let out := updateVM c.world vm o
    (out.1, { c with world := out.2 })
  | c, .updateVMStatus vm, o =>
    let out := updateVMStatus c.world vm o
    (out.1, { c with world := out.2 })

def scheduled (vm : VirtualMachine) (status : ConditionStatus) (reason message : String) :
  VirtualMachine :=
  { vm with
    conditions := (setStatusCondition vm.conditions
      { type := "Scheduled", status, reason, message, observedGeneration := vm.generation }).1 }

variable {F : Type} [LinearOrder F] [Sub F] [Div F] [Zero F] [One F] (libs : Libraries F)

def bindVM (key : String × String) : Prog BindCall BindReply (Option String) := do
  match <- ask (BindCall.getVM key) with
  | .error .notFound => pure none
  | .error e => pure (some e.text)
  | .ok vm =>
    if vm.clusterName ≠ "" then pure none
    else
      match <- ask BindCall.listPools with
      | .error e => pure (some ("list pools: " ++ e.text))
      | .ok pools =>
        match <- ask BindCall.listVMs with
        | .error e => pure (some ("list vms: " ++ e.text))
        | .ok vms =>
          match <- ask BindCall.listContainers with
          | .error e => pure (some ("list containers: " ++ e.text))
          | .ok containers =>
            match schedule libs vm pools (allocatedByPool vms containers) with
            | .error reason =>
              match <- ask (BindCall.updateVMStatus
                (scheduled vm .isFalse "Unschedulable" reason)) with
              | .error e => pure (some e.text)
              | .ok _ => pure none
            | .ok pool =>
              match <- ask (BindCall.updateVM { vm with clusterName := pool }) with
              | .error e => pure (some ("bind vm: " ++ e.text))
              | .ok vm =>
                match <- ask (BindCall.updateVMStatus
                  (scheduled vm .isTrue "Bound" ("bound to " ++ pool))) with
                | .error e => pure (some e.text)
                | .ok _ => pure none

end

def World.requested {S : Type} (w : World S) (pool res : String) : Quantity :=
  demand VirtualMachine.clusterName VirtualMachine.requests w.vms.items pool res

section

variable {S : Type}

def WithinPool (w : World S) (vm : VirtualMachine) : Prop :=
  ∃ pool, w.pools.find vm.clusterName = some pool /\ ∀ entry ∈ vm.requests.entries,
    ∃ cap, pool.status.allocatable.get entry.1 = some cap /\ w.requested vm.clusterName entry.1 <= cap

def ApartFromGroup (w : World S) (vm : VirtualMachine) : Prop :=
  vm.group ≠ "" -> ∀ other ∈ w.vms.items, other.key ≠ vm.key -> other.clusterName = vm.clusterName -> other.group ≠ vm.group

def BindRespects (before : World S) (sent : VirtualMachine) (violated : Option Bool) : Prop :=
  sent.clusterName ≠ "" -> ∀ cur, before.vms.find sent.key = some cur -> WithinPool (storeVM before sent cur).2 sent /\
      (violated = some false -> ApartFromGroup (storeVM before sent cur).2 sent)

lemma requested_put {w : World S} {cur : VirtualMachine} (new : VirtualMachine)
  (found : w.vms.find new.key = some cur) (pool res : String) :
  demand VirtualMachine.clusterName VirtualMachine.requests (w.vms.put new).items pool res =
    w.requested pool res - (if cur.clusterName = pool then cur.requests.amount res else 0) +
      if new.clusterName = pool then new.requests.amount res else 0 := by
  rw [World.requested, demand_eq_sum, demand_eq_sum]
  exact Store.sum_put w.vms (fun vm => if vm.clusterName = pool then vm.requests.amount res else 0) found

lemma requested_storeVM {w : World S} (sent : VirtualMachine) {cur : VirtualMachine}
  (found : w.vms.find sent.key = some cur) {pool : String} (elsewhere : cur.clusterName ≠ pool)
  (res : String) :
  (storeVM w sent cur).2.requested pool res =
    w.requested pool res + if sent.clusterName = pool then sent.requests.amount res else 0 := by
  refine (requested_put { sent with
    resourceVersion := w.revision + 1, conditions := cur.conditions } found pool res).trans ?_
  rw [if_neg elsewhere, sub_zero]

lemma requested_storeVMStatus {w : World S} {sent cur : VirtualMachine}
  (found : w.vms.find sent.key = some cur) (pool res : String) :
  (storeVMStatus w sent cur).2.requested pool res = w.requested pool res := by
  have named : cur.key = sent.key := Store.find_key found
  refine (requested_put { cur with
    resourceVersion := w.revision + 1, conditions := sent.conditions }
    (named.symm ▸ found) pool res).trans ?_
  exact sub_add_cancel _ _

end

section

variable {S F : Type} [LinearOrder F] [Sub F] [Div F] [Zero F] [One F] (libs : Libraries F)

def bindRun (key : String × String) (outcome : Nat -> Outcome) (c : Cluster S) :
  Option String × Log (Cluster S) BindReply × Cluster S :=
  (bindVM libs key).run serveBind (fun _ c => c) outcome [] c

def Binds (Q : Cluster S -> VirtualMachine -> Prop) (log : Log (Cluster S) BindReply) : Prop :=
  ∀ e ∈ log, ∀ sent, e.call = .updateVM sent -> Q e.world sent

def BindCall.isRead : BindCall -> Bool
  | .updateVM _ | .updateVMStatus _ => false
  | _ => true

lemma serveBind_read {call : BindCall} (read : call.isRead = true) (c : Cluster S) (o : Outcome) :
  (serveBind c call o).2 = c := by
  cases call with
  | getVM key =>
    cases found : c.world.vms.find key with
    | none | some => simp [serveBind, found]
  | listPools | listVMs | listContainers => exact Outcome.answer_same _ _ _
  | updateVM | updateVMStatus => cases read

lemma getVM_ok {key : String × String} {c : Cluster S} {o : Outcome} {vm : VirtualMachine}
  (told : (serveBind c (.getVM key) o).1 = .ok vm) : c.world.vms.find key = some vm := by
  cases found : c.world.vms.find key with
  | none => simp [serveBind, found] at told
  | some stored =>
    simp only [serveBind, found] at told
    rw [Outcome.answer_ok told]

lemma run_read {α : Type} {call : BindCall} (next : BindReply call -> Prog BindCall BindReply α)
  (outcome : Nat -> Outcome) (c : Cluster S) (log : Log (Cluster S) BindReply)
  (read : call.isRead = true) :
  (ask call >>= next).run serveBind (fun _ c => c) outcome log c =
    (next (serveBind c call (outcome log.length)).1).run serveBind (fun _ c => c) outcome
      (⟨c, call, (serveBind c call (outcome log.length)).1⟩ :: log) c := by
  rw [run_bind, run_ask, serveBind_read read]

def Decided (c : Cluster S) (key : String × String) (before : Cluster S) (sent : VirtualMachine) :
  Prop :=
  before = c /\ ∃ vm pool, c.world.vms.find key = some vm /\ vm.clusterName = "" /\
    schedule libs vm c.world.pools.items (allocatedByPool c.world.vms.items c.containers) = .ok pool /\
    sent = { vm with clusterName := pool }

lemma bindRun_binds (key : String × String) (outcome : Nat -> Outcome) (c : Cluster S) :
  Binds (Decided libs c key) (bindRun libs key outcome c).2.1 := by
  unfold bindRun bindVM
  rw [run_read _ _ _ _ rfl]
  split
  · simp [Binds]
  · simp [Binds]
  next vm gotVM =>
    split
    · simp [Binds]
    next unbound =>
      rw [run_read _ _ _ _ rfl]
      split
      · simp [Binds]
      next pools gotPools =>
        rw [run_read _ _ _ _ rfl]
        split
        · simp [Binds]
        next vms gotVMs =>
          rw [run_read _ _ _ _ rfl]
          split
          · simp [Binds]
          next containers gotContainers =>
            obtain rfl : pools = c.world.pools.items := Outcome.answer_ok gotPools
            obtain rfl : vms = c.world.vms.items := Outcome.answer_ok gotVMs
            obtain rfl : containers = c.containers := Outcome.answer_ok gotContainers
            split
            · rw [run_bind, run_ask]
              split <;> simp [Binds]
            next pool decided =>
              have bound : Decided libs c key c { vm with clusterName := pool } :=
                ⟨rfl, vm, pool, getVM_ok gotVM, not_not.mp unbound, decided, rfl⟩
              rw [run_bind, run_ask]
              split
              · simpa [Binds] using bound
              · rw [run_bind, run_ask]
                split <;> simpa [Binds] using bound

variable {libs} in
lemma Decided.respects {key : String × String} {c before : Cluster S} {sent : VirtualMachine}
  (decided : Decided libs c key before sent)
  (nonneg : ∀ container ∈ c.containers, container.requests.Nonneg) :
  BindRespects before.world sent none := by
  obtain ⟨rfl, vm, pool, found, unbound, chosen, rfl⟩ := decided
  intro named cur stored
  refine ⟨?_, fun reported => nomatch reported⟩
  obtain rfl : vm = cur := by
    have same : vm.key = key := Store.find_key found
    rw [<- same] at found
    exact Option.mem_unique found stored
  obtain ⟨p, member, rfl, -, score, fits⟩ := scheduleWorkload_ok chosen
  refine ⟨p, Store.find_of_mem member, fun entry requested => ?_⟩
  obtain ⟨cap, offered, within⟩ := fitScore_fits fits requested
  refine ⟨cap, offered, ?_⟩
  have apart : vm.clusterName ≠ p.name := by rw [unbound]; exact Ne.symm named
  have others : 0 <= demand Container.clusterName Container.requests before.containers p.name
    entry.1 := demand_nonneg nonneg p.name entry.1
  rw [allocatedByPool_amount _ _ named] at within
  rw [requested_storeVM _ stored apart, if_pos rfl, ResourceList.amount_of_mem requested]
  calc before.world.requested p.name entry.1 + entry.2 <= before.world.requested p.name entry.1 +
          demand Container.clusterName Container.requests before.containers p.name entry.1 +
            entry.2 := by gcongr; exact le_add_of_nonneg_right others
    _ <= cap := within

end

end Ectobase.Dispatch
