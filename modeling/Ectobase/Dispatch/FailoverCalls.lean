import Ectobase.Dispatch.Scheduler
import Ectobase.Mesh.Rib
import Ectobase.Shared.Calls
import Ectobase.Shared.Store

namespace Ectobase.Dispatch

open Shared Prog
open Mesh (RouteKey RouteHolding RIB)

inductive ApiError where
  | notFound
  | conflict
  | failed (message : String)
  deriving DecidableEq, Repr

def ApiError.text : ApiError -> String
  | .notFound => "not found"
  | .conflict => "the object has been modified; please apply your changes to the latest version"
  | .failed message => message

structure CompiledVM where
  namespace_ : String
  name : String
  resourceVersion : Nat
  clusterName : String
  terminating : Bool
  released : Bool
  deriving DecidableEq, Repr

structure CompiledNIC where
  namespace_ : String
  name : String
  clusterName : String
  sourceNamespace : String
  sourceName : String
  vni : Int
  overlayIPs : List String
  deriving DecidableEq, Repr

inductive Call where
  | now
  | getPool (name : String)
  | updatePoolStatus (pool : ClusterPool)
  | listPools
  | listVMs
  | updateVM (vm : VirtualMachine)
  | updateVMStatus (vm : VirtualMachine)
  | listTwins (namespace_ : String)
  | patchReleased (twin : CompiledVM)
  | listNICs
  | storageFence (pool pfx : String)
  | storageRelease (pool pfx : String)
  | fencedFor (pfx : String)
  | networkFence (pfx : String)
  | networkRelease (pfx : String)
  | announcedFrom (pfx : String) (keys : List RouteKey)

-- A write that is accepted comes back with the version the server gave it.
abbrev Reply : Call -> Type
  | .now => Int
  | .getPool _ | .updatePoolStatus _ => Except ApiError ClusterPool
  | .listPools => Except ApiError (List ClusterPool)
  | .listVMs => Except ApiError (List VirtualMachine)
  | .updateVM _ | .updateVMStatus _ => Except ApiError VirtualMachine
  | .listTwins _ => Except ApiError (List CompiledVM)
  | .patchReleased _ => Except ApiError Unit
  | .listNICs => Except ApiError (List CompiledNIC)
  | .storageFence _ _ | .storageRelease _ _ | .networkFence _ | .networkRelease _ =>
    Except ApiError Unit
  | .fencedFor _ => Except ApiError (Option String)
  | .announcedFrom _ _ => Except ApiError (List RouteHolding)

abbrev Pass := Prog Call Reply

namespace Ask

def now : Pass Int := ask Call.now

def getPool (name : String) : Pass (Except ApiError ClusterPool) := ask (Call.getPool name)

def updatePoolStatus (pool : ClusterPool) : Pass (Except ApiError ClusterPool) :=
  ask (Call.updatePoolStatus pool)

def listPools : Pass (Except ApiError (List ClusterPool)) := ask Call.listPools

def listVMs : Pass (Except ApiError (List VirtualMachine)) := ask Call.listVMs

def updateVM (vm : VirtualMachine) : Pass (Except ApiError VirtualMachine) := ask (Call.updateVM vm)

def updateVMStatus (vm : VirtualMachine) : Pass (Except ApiError VirtualMachine) :=
  ask (Call.updateVMStatus vm)

def listTwins (namespace_ : String) : Pass (Except ApiError (List CompiledVM)) :=
  ask (Call.listTwins namespace_)

def patchReleased (twin : CompiledVM) : Pass (Except ApiError Unit) := ask (Call.patchReleased twin)

def listNICs : Pass (Except ApiError (List CompiledNIC)) := ask Call.listNICs

def storageFence (pool pfx : String) : Pass (Except ApiError Unit) := ask (Call.storageFence pool pfx)

def storageRelease (pool pfx : String) : Pass (Except ApiError Unit) :=
  ask (Call.storageRelease pool pfx)

def fencedFor (pfx : String) : Pass (Except ApiError (Option String)) := ask (Call.fencedFor pfx)

def networkFence (pfx : String) : Pass (Except ApiError Unit) := ask (Call.networkFence pfx)

def networkRelease (pfx : String) : Pass (Except ApiError Unit) := ask (Call.networkRelease pfx)

def announcedFrom (pfx : String) (keys : List RouteKey) : Pass (Except ApiError (List RouteHolding)) :=
  ask (Call.announcedFrom pfx keys)

end Ask

inductive Outcome where
  | normal
  | refused (message : String)
  | unanswered (message : String)
  deriving DecidableEq, Repr

def Outcome.answer {α W : Type} (o : Outcome) (reply : α) (before after : W) : Except ApiError α × W :=
  match o with
  | .normal => (.ok reply, after)
  | .refused message => (.error (.failed message), before)
  | .unanswered message => (.error (.failed message), after)

structure StorageBackend (S : Type) where
  fence : S -> String -> String -> Outcome -> Except ApiError Unit × S
  release : S -> String -> String -> Outcome -> Except ApiError Unit × S
  fencedFor : S -> String -> Option String

abbrev VirtualMachine.key (vm : VirtualMachine) : String × String := (vm.namespace_, vm.name)

abbrev CompiledVM.key (twin : CompiledVM) : String × String := (twin.namespace_, twin.name)

structure World (S : Type) where
  now : Int
  revision : Nat
  pools : Store ClusterPool.name
  vms : Store VirtualMachine.key
  twins : Store CompiledVM.key
  nics : List CompiledNIC
  storage : S
  rib : RIB

section

variable {S : Type} (backend : StorageBackend S)

def checked {A W : Type} (stored : Option A) (version : A -> Nat) (sent : Nat) (o : Outcome)
  (before : W) (write : A -> A × W) : Except ApiError A × W :=
  match stored with
  | none => (.error .notFound, before)
  | some cur =>
    if version cur = sent then o.answer (write cur).1 before (write cur).2
    else (.error .conflict, before)

def storePoolStatus (w : World S) (sent cur : ClusterPool) : ClusterPool × World S :=
  let new := { cur with resourceVersion := w.revision + 1, status := sent.status }
  (new, { w with revision := w.revision + 1, pools := w.pools.put new })

def updatePoolStatus (w : World S) (pool : ClusterPool) (o : Outcome) : Except ApiError ClusterPool × World S :=
  checked (w.pools.find pool.name) ClusterPool.resourceVersion pool.resourceVersion o w (storePoolStatus w pool)

def storeVM (w : World S) (sent cur : VirtualMachine) : VirtualMachine × World S :=
  let new := { sent with resourceVersion := w.revision + 1, conditions := cur.conditions }
  (new, { w with revision := w.revision + 1, vms := w.vms.put new })

def updateVM (w : World S) (vm : VirtualMachine) (o : Outcome) : Except ApiError VirtualMachine × World S :=
  checked (w.vms.find vm.key) VirtualMachine.resourceVersion vm.resourceVersion o w (storeVM w vm)

def storeVMStatus (w : World S) (sent cur : VirtualMachine) : VirtualMachine × World S :=
  let new := { cur with resourceVersion := w.revision + 1, conditions := sent.conditions }
  (new, { w with revision := w.revision + 1, vms := w.vms.put new })

def updateVMStatus (w : World S) (vm : VirtualMachine) (o : Outcome) : Except ApiError VirtualMachine × World S :=
  checked (w.vms.find vm.key) VirtualMachine.resourceVersion vm.resourceVersion o w (storeVMStatus w vm)

def storeReleased (w : World S) (cur : CompiledVM) : CompiledVM × World S :=
  let new := { cur with resourceVersion := w.revision + 1, released := true }
  (new, { w with revision := w.revision + 1, twins := w.twins.put new })

def patchReleased (w : World S) (twin : CompiledVM) (o : Outcome) : Except ApiError CompiledVM × World S :=
  checked (w.twins.find twin.key) CompiledVM.resourceVersion twin.resourceVersion o w (storeReleased w)

def serve : Serve (World S) Outcome Reply
  | w, .now, _ => (w.now, w)
  | w, .getPool name, o =>
    match w.pools.find name with
    | none => (.error .notFound, w)
    | some pool => o.answer pool w w
  | w, .updatePoolStatus pool, o => updatePoolStatus w pool o
  | w, .listPools, o => o.answer w.pools.items w w
  | w, .listVMs, o => o.answer w.vms.items w w
  | w, .updateVM vm, o => updateVM w vm o
  | w, .updateVMStatus vm, o => updateVMStatus w vm o
  | w, .listTwins ns, o => o.answer (w.twins.items.filter fun t => t.namespace_ = ns) w w
  | w, .patchReleased twin, o =>
    let out := patchReleased w twin o
    (out.1.map fun _ => (), out.2)
  | w, .listNICs, o => o.answer w.nics w w
  | w, .storageFence pool pfx, o =>
    let out := backend.fence w.storage pool pfx o
    (out.1, { w with storage := out.2 })
  | w, .storageRelease pool pfx, o =>
    let out := backend.release w.storage pool pfx o
    (out.1, { w with storage := out.2 })
  | w, .fencedFor pfx, o => o.answer (backend.fencedFor w.storage pfx) w w
  -- What the reflector hides is not read back by a pass.
  | w, .networkFence _, o => o.answer () w w
  | w, .networkRelease _, o => o.answer () w w
  | w, .announcedFrom pfx keys, o =>
    match w.rib.announcedFrom pfx keys with
    | none => (.error (.failed ("invalid CIDR address: " ++ pfx)), w)
    | some held => o.answer held w w

end

variable {W A : Type} {o : Outcome}

lemma Outcome.answer_ok {α : Type} {reply a : α} {before after : W}
  (accepted : (o.answer reply before after).1 = .ok a) : a = reply := by
  cases o with
  | normal => exact (Except.ok.inj accepted).symm
  | refused | unanswered => cases accepted

@[simp] lemma Outcome.answer_same {α W : Type} (o : Outcome) (reply : α) (w : W) : (o.answer reply w w).2 = w := by
  cases o <;> rfl

lemma checked_cases (stored : Option A) (version : A -> Nat) (sent : Nat) (o : Outcome) (before : W) (write : A -> A × W) :
  (∃ e, checked stored version sent o before write = (.error e, before)) \/
    ∃ cur, stored = some cur /\ version cur = sent /\ (checked stored version sent o before write).2 = (write cur).2 /\
      ∀ a, (checked stored version sent o before write).1 = .ok a -> a = (write cur).1 := by
  unfold checked
  cases stored with
  | none => exact .inl ⟨.notFound, rfl⟩
  | some cur =>
    dsimp only
    split
    next current =>
      cases o with
      | refused message => exact .inl ⟨.failed message, rfl⟩
      | normal => exact .inr ⟨cur, rfl, current, rfl, fun a accepted => Outcome.answer_ok accepted⟩
      | unanswered message => exact .inr ⟨cur, rfl, current, rfl, fun a told => nomatch told⟩
    · exact .inl ⟨.conflict, rfl⟩

variable {S : Type} {backend : StorageBackend S} {w : World S} {stored : Option A}
  {version : A -> Nat} {sent : Nat} {before : W} {write : A -> A × W}

lemma checked_keeps (kept : W -> Prop) (here : kept before)
  (made : ∀ cur, stored = some cur -> version cur = sent -> kept (write cur).2) :
  kept (checked stored version sent o before write).2 := by
  rcases checked_cases stored version sent o before write with ⟨e, failed⟩ | ⟨cur, found, current, left, -⟩
  · rw [failed]
    exact here
  · rw [left]
    exact made cur found current

lemma checked_ok {a : A} (accepted : (checked stored version sent o before write).1 = .ok a) :
  ∃ cur, stored = some cur /\ a = (write cur).1 /\ (checked stored version sent o before write).2 = (write cur).2 := by
  rcases checked_cases stored version sent o before write with ⟨e, failed⟩ | ⟨cur, found, -, left, made⟩
  · rw [failed] at accepted
    cases accepted
  · exact ⟨cur, found, made a accepted, left⟩

lemma getPool_ok {name : String} {pool : ClusterPool} (told : (serve backend w (.getPool name) o).1 = .ok pool) :
  w.pools.find name = some pool := by
  cases found : w.pools.find name with
  | none => simp [serve, found] at told
  | some stored =>
    simp only [serve, found] at told
    rw [Outcome.answer_ok told]

lemma announcedFrom_ok {pfx : String} {keys : List RouteKey} {held : List RouteHolding}
  (told : (serve backend w (.announcedFrom pfx keys) o).1 = .ok held) :
  w.rib.announcedFrom pfx keys = some held := by
  cases found : w.rib.announcedFrom pfx keys with
  | none => simp [serve, found] at told
  | some stored =>
    simp only [serve, found] at told
    rw [Outcome.answer_ok told]

end Ectobase.Dispatch
