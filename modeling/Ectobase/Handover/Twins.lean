import Ectobase.Dispatch.FailoverCalls
import Ectobase.Mesh.Vpc
import Ectobase.Shared.History

namespace Ectobase.Handover

open Shared Prog
open Mesh (NamespacedName)
open Dispatch (ApiError Condition Outcome checked poolNamespace)

structure CompiledVMSpec (σ : Type) where
  clusterName : String
  -- Image, resources, run strategy, interfaces, cloud-init and volumes.
  rest : σ
  deriving DecidableEq, Repr

structure Twin (σ : Type) where
  key : NamespacedName
  uid : Nat
  resourceVersion : Nat
  sourceNamespace : String
  sourceName : String
  workload : String
  finalizer : Bool
  terminating : Bool
  spec : CompiledVMSpec σ
  released : Bool
  deriving DecidableEq, Repr

def compiledTwinName (src : NamespacedName) : String := src.ns ++ "-" ++ src.name

section

variable {σ : Type}

def sourceOf (t : Twin σ) : Option NamespacedName :=
  if t.sourceNamespace ≠ "" /\ t.sourceName ≠ "" then some ⟨t.sourceNamespace, t.sourceName⟩ else none

def downstreamNamespace (t : Twin σ) : String :=
  if t.sourceNamespace ≠ "" then t.sourceNamespace else t.key.ns

def downstreamKey (t : Twin σ) : NamespacedName where
  ns := downstreamNamespace t
  name := t.key.name

end

structure VirtualMachine where
  terminating : Bool
  finalizer : Bool
  clusterName : String
  generation : Int
  conditions : List Condition
  deriving DecidableEq, Repr

structure CompiledVM (σ : Type) where
  key : NamespacedName
  spec : CompiledVMSpec σ
  workload : String
  deriving DecidableEq, Repr

structure OwnerRef where
  kind : String
  name : String
  deriving DecidableEq, Repr

structure Launcher where
  ns : String
  name : String
  owners : List OwnerRef
  deriving DecidableEq, Repr

inductive Kind where
  | compiledVM
  | virtualMachine
  | virtualMachineInstance
  | launcher
  deriving DecidableEq, Repr

def Kind.before : Kind -> Option Kind
  | .compiledVM => none
  | .virtualMachine => some .compiledVM
  | .virtualMachineInstance => some .virtualMachine
  | .launcher => some .virtualMachineInstance

structure Pool (σ : Type) where
  compiled : Store (CompiledVM.key : CompiledVM σ -> NamespacedName)
  vms : List NamespacedName
  vmis : List NamespacedName
  launchers : List Launcher

def Launcher.runs (pod : Launcher) (name : String) : Bool :=
  pod.owners.any fun ref => ref.kind == "VirtualMachineInstance" && ref.name == name

def Pool.Has {σ : Type} (p : Pool σ) : Kind -> NamespacedName -> Prop
  | .compiledVM, k => ∃ v ∈ p.compiled.items, v.key = k
  | .virtualMachine, k => k ∈ p.vms
  | .virtualMachineInstance, k => k ∈ p.vmis
  | .launcher, k => ∃ pod ∈ p.launchers, pod.ns = k.ns /\ pod.runs k.name = true

instance {σ : Type} (p : Pool σ) (kind : Kind) (k : NamespacedName) : Decidable (p.Has kind k) := by
  cases kind <;> unfold Pool.Has <;> infer_instance

structure World (σ : Type) where
  twins : History (Twin.key : Twin σ -> NamespacedName)
  lag : String -> Nat
  pools : String -> Pool σ

-- A pool may have no KubeVirt, and then its API has no such kind to look for.
inductive LookError where
  | noMatch
  | api (e : ApiError)
  deriving DecidableEq, Repr

def Pool.noKubeVirt {σ : Type} (p : Pool σ) : Kind -> Bool
  | .virtualMachine | .virtualMachineInstance => p.vms.isEmpty && p.vmis.isEmpty
  | .compiledVM | .launcher => false

inductive Call (σ : Type) where
  | getVM (src : NamespacedName)
  | updateVM (src : NamespacedName) (vm : VirtualMachine)
  | patchVMStatus (src : NamespacedName) (vm : VirtualMachine)
  | compileInputs (src : NamespacedName)
  | cachedTwins
  | cachedTwin (key : NamespacedName)
  | workloadTwins (workload : String)
  | createTwin (twin : Twin σ)
  | updateTwin (twin : Twin σ)
  | deleteTwin (key : NamespacedName)
  | poolTwins (pool : String)
  | patchReleased (twin : Twin σ)
  | listCompiled (pool : String)
  | createCompiled (pool : String) (vm : CompiledVM σ)
  | updateCompiled (pool : String) (vm : CompiledVM σ)
  | deleteCompiled (pool : String) (key : NamespacedName)
  | look (pool : String) (kind : Kind) (key : NamespacedName)
  | listLaunchers (pool : String) (ns : String)
  | listClaims (pool : String) (ns workload : String)

abbrev Reply {σ : Type} : Call σ -> Type
  | .getVM _ => Except ApiError VirtualMachine
  | .updateVM _ _ => Except ApiError Unit
  | .patchVMStatus _ _ => Except ApiError Unit
  | .compileInputs _ => Except ApiError σ
  | .cachedTwins => Except ApiError (List (Twin σ))
  | .cachedTwin _ => Except ApiError (Twin σ)
  | .workloadTwins _ => Except ApiError (List (Twin σ))
  | .createTwin _ => Except ApiError Unit
  | .updateTwin _ => Except ApiError Unit
  | .deleteTwin _ => Except ApiError Unit
  | .poolTwins _ => Except ApiError (List (Twin σ))
  | .patchReleased _ => Except ApiError Unit
  | .listCompiled _ => Except ApiError (List (CompiledVM σ))
  | .createCompiled _ _ => Except ApiError Unit
  | .updateCompiled _ _ => Except ApiError Unit
  | .deleteCompiled _ _ => Except ApiError Unit
  | .look _ _ _ => Except LookError Unit
  | .listLaunchers _ _ => Except ApiError (List Launcher)
  | .listClaims _ _ _ => Except ApiError (List String)

abbrev Handing (σ : Type) := Prog (Call σ) Reply

abbrev Told (σ : Type) := Trace (Reply : Call σ -> Type)

section

variable {σ : Type} (pool : String) (key src : NamespacedName)

def getVM : Handing σ (Except ApiError VirtualMachine) := ask (Call.getVM src)

def updateVM (vm : VirtualMachine) : Handing σ (Except ApiError Unit) := ask (Call.updateVM src vm)

def patchVMStatus (vm : VirtualMachine) : Handing σ (Except ApiError Unit) := ask (Call.patchVMStatus src vm)

def compileInputs : Handing σ (Except ApiError σ) := ask (Call.compileInputs src)

def cachedTwins : Handing σ (Except ApiError (List (Twin σ))) := ask Call.cachedTwins

def cachedTwin : Handing σ (Except ApiError (Twin σ)) := ask (Call.cachedTwin key)

def workloadTwins (workload : String) : Handing σ (Except ApiError (List (Twin σ))) :=
  ask (Call.workloadTwins workload)

def createTwin (twin : Twin σ) : Handing σ (Except ApiError Unit) := ask (Call.createTwin twin)

def updateTwin (twin : Twin σ) : Handing σ (Except ApiError Unit) := ask (Call.updateTwin twin)

def deleteTwin : Handing σ (Except ApiError Unit) := ask (Call.deleteTwin key)

def poolTwins : Handing σ (Except ApiError (List (Twin σ))) := ask (Call.poolTwins pool)

def patchReleased (twin : Twin σ) : Handing σ (Except ApiError Unit) := ask (Call.patchReleased twin)

def listCompiled : Handing σ (Except ApiError (List (CompiledVM σ))) := ask (Call.listCompiled pool)

def createCompiled (vm : CompiledVM σ) : Handing σ (Except ApiError Unit) :=
  ask (Call.createCompiled pool vm)

def updateCompiled (vm : CompiledVM σ) : Handing σ (Except ApiError Unit) :=
  ask (Call.updateCompiled pool vm)

def deleteCompiled : Handing σ (Except ApiError Unit) := ask (Call.deleteCompiled pool key)

def look (pool : String) (kind : Kind) (key : NamespacedName) :
  Handing σ (Except LookError Unit) := ask (Call.look pool kind key)

def listLaunchers (ns : String) : Handing σ (Except ApiError (List Launcher)) :=
  ask (Call.listLaunchers pool ns)

def listClaims (ns workload : String) : Handing σ (Except ApiError (List String)) :=
  ask (Call.listClaims pool ns workload)

end

-- How a call turns out, and what it reads that nothing here decides.
structure Chance (σ : Type) where
  outcome : Outcome
  vm : Except ApiError VirtualMachine
  inputs : Except ApiError σ
  claims : List String
  lag : Nat
  bare : Bool

section

variable {σ : Type}

def World.setTwins (w : World σ) (twins : Store (Twin.key : Twin σ -> NamespacedName)) : World σ :=
  { w with twins := w.twins.commit twins, lag := fun pool => w.lag pool + 1 }

def World.setPool (w : World σ) (pool : String) (p : Pool σ) : World σ :=
  { w with pools := Function.update w.pools pool p }

def addTwin (w : World σ) (twin : Twin σ) : World σ := w.setTwins (w.twins.now.put { twin with
    uid := w.twins.next
    resourceVersion := w.twins.next
    terminating := false
    released := false })

-- Identity, deletion and status stay the server's; the last finalizer ends a deletion.
def storeTwin (w : World σ) (sent cur : Twin σ) : Twin σ × World σ := let new := { sent with
    uid := cur.uid
    resourceVersion := w.twins.next
    terminating := cur.terminating
    released := cur.released }
  (new, w.setTwins (if cur.terminating && !sent.finalizer then w.twins.now.remove cur.key
    else w.twins.now.put new))

def markDeleted (w : World σ) (cur : Twin σ) : World σ :=
  if !cur.finalizer then w.setTwins (w.twins.now.remove cur.key)
  else if cur.terminating then w
  else w.setTwins (w.twins.now.put { cur with terminating := true, resourceVersion := w.twins.next })

def storeReleased (w : World σ) (cur : Twin σ) : Twin σ × World σ :=
  let new := { cur with released := true, resourceVersion := w.twins.next }
  (new, w.setTwins (w.twins.now.put new))

def World.view (w : World σ) (pool : String) : List (Twin σ) :=
  (w.twins.behind (w.lag pool)).items.filter fun t => t.key.ns = poolNamespace pool

def serve : Serve (World σ) (Chance σ) (Reply : Call σ -> Type)
  | w, .getVM _, o => (o.vm, w)
  | w, .updateVM _ _, o => o.outcome.answer () w w
  | w, .patchVMStatus _ _, o => o.outcome.answer () w w
  | w, .compileInputs _, o => (o.inputs, w)
  | w, .cachedTwins, o => o.outcome.answer (w.twins.behind o.lag).items w w
  | w, .cachedTwin key, o =>
    match (w.twins.behind o.lag).find key with
    | none => (.error .notFound, w)
    | some twin => o.outcome.answer twin w w
  | w, .workloadTwins workload, o =>
    o.outcome.answer (w.twins.now.items.filter fun t => t.workload = workload) w w
  | w, .createTwin twin, o =>
    match w.twins.now.find twin.key with
    | some _ => (.error (.failed "already exists"), w)
    | none => o.outcome.answer () w (addTwin w twin)
  | w, .updateTwin twin, o =>
    let out := checked (w.twins.now.find twin.key) Twin.resourceVersion twin.resourceVersion
      o.outcome w (storeTwin w twin)
    (out.1.map fun _ => (), out.2)
  | w, .deleteTwin key, o =>
    match w.twins.now.find key with
    | none => (.error .notFound, w)
    | some cur => o.outcome.answer () w (markDeleted w cur)
  | w, .poolTwins pool, o => o.outcome.answer (w.view pool) w w
  | w, .patchReleased twin, o =>
    let out := checked (w.twins.now.find twin.key) Twin.resourceVersion twin.resourceVersion
      o.outcome w (storeReleased w)
    (out.1.map fun _ => (), out.2)
  | w, .listCompiled pool, o => o.outcome.answer (w.pools pool).compiled.items w w
  | w, .createCompiled pool vm, o =>
    let p := w.pools pool
    match p.compiled.find vm.key with
    | some _ => (.error (.failed "already exists"), w)
    | none => o.outcome.answer () w (w.setPool pool { p with compiled := p.compiled.put vm })
  | w, .updateCompiled pool vm, o =>
    let p := w.pools pool
    match p.compiled.find vm.key with
    | none => (.error .notFound, w)
    | some _ => o.outcome.answer () w (w.setPool pool { p with compiled := p.compiled.put vm })
  | w, .deleteCompiled pool key, o =>
    let p := w.pools pool
    match p.compiled.find key with
    | none => (.error .notFound, w)
    | some _ => o.outcome.answer () w (w.setPool pool { p with compiled := p.compiled.remove key })
  | w, .look pool kind key, o =>
    match o.outcome with
    | .refused message | .unanswered message => (.error (.api (.failed message)), w)
    | .normal =>
      if (w.pools pool).Has kind key then (.ok (), w)
      else if o.bare && (w.pools pool).noKubeVirt kind then (.error .noMatch, w)
      else (.error (.api .notFound), w)
  | w, .listLaunchers pool ns, o =>
    o.outcome.answer ((w.pools pool).launchers.filter fun pod => pod.ns = ns) w w
  | w, .listClaims _ _ _, o => o.outcome.answer o.claims w w

inductive Event where
  | catchUp (pool : String)
  | deleteTwin (key : NamespacedName)
  | startVM (pool : String) (key : NamespacedName)
  | startVMI (pool : String) (key : NamespacedName)
  | startLauncher (pool : String) (key : NamespacedName) (name : String)
  | stopCompiled (pool : String) (key : NamespacedName)
  | stopVM (pool : String) (key : NamespacedName)
  | stopVMI (pool : String) (key : NamespacedName)
  | stopLauncher (pool : String) (pod : Launcher)

def environment (w : World σ) : Event -> World σ
  | .catchUp pool => { w with lag := Function.update w.lag pool (w.lag pool - 1) }
  | .deleteTwin key =>
    match w.twins.now.find key with
    | none => w
    | some cur => markDeleted w cur
  | .startVM pool key =>
    let p := w.pools pool
    if p.Has .compiledVM key then w.setPool pool { p with vms := key :: p.vms } else w
  | .startVMI pool key =>
    let p := w.pools pool
    if p.Has .virtualMachine key then w.setPool pool { p with vmis := key :: p.vmis } else w
  | .startLauncher pool key name =>
    let p := w.pools pool
    if p.Has .virtualMachineInstance key then
      w.setPool pool { p with
        launchers := ⟨key.ns, name, [⟨"VirtualMachineInstance", key.name⟩]⟩ :: p.launchers }
    else w
  | .stopCompiled pool key =>
    let p := w.pools pool
    w.setPool pool { p with compiled := p.compiled.remove key }
  | .stopVM pool key =>
    let p := w.pools pool
    w.setPool pool { p with vms := p.vms.filter (· ≠ key) }
  | .stopVMI pool key =>
    let p := w.pools pool
    w.setPool pool { p with vmis := p.vmis.filter (· ≠ key) }
  | .stopLauncher pool pod =>
    let p := w.pools pool
    w.setPool pool { p with launchers := p.launchers.filter (· ≠ pod) }

def Pool.empty : Pool σ where
  compiled := .empty
  vms := []
  vmis := []
  launchers := []

def World.empty : World σ where
  twins := .empty
  lag := fun _ => 0
  pools := fun _ => .empty

end

end Ectobase.Handover
