import Ectobase.Handover.Twins

namespace Ectobase.Handover

open Shared
open Mesh (NamespacedName)
open Dispatch (ApiError Condition ConditionStatus poolNamespace setStatusCondition)

variable {σ : Type}

def wrapped (what : String) (e : ApiError) : String := what ++ ": " ++ e.text

def ensureFinalizer (twin : Twin σ) : Handing σ (Except ApiError Unit) :=
  if twin.finalizer then pure (.ok ()) else updateTwin { twin with finalizer := true }

def deleteIfExists (twin : Twin σ) : Handing σ (Except ApiError Unit) := do
  match <- deleteTwin twin.key with
  | .error .notFound => pure (.ok ())
  | reply => pure reply

def retireTwin (twin : Twin σ) : Handing σ (Except ApiError Unit) :=
  if twin.terminating then pure (.ok ())
  else do
    match <- ensureFinalizer twin with
    | .error e => pure (.error e)
    | .ok () => deleteIfExists twin

def retireEach (what : String) : List (Twin σ) -> Handing σ (Except String Unit)
  | [] => pure (.ok ())
  | twin :: rest => do
    match <- retireTwin twin with
    | .error e =>
      pure (.error (wrapped (what ++ " compiledvm " ++ twin.key.ns ++ "/" ++ twin.key.name) e))
    | .ok () => retireEach what rest

variable (src : NamespacedName) (vm : VirtualMachine)

def reportedBefore (a b : Twin σ) : Prop := a.spec.clusterName < b.spec.clusterName \/
  a.spec.clusterName = b.spec.clusterName /\ a.key.ns <= b.key.ns

instance (a b : Twin σ) : Decidable (reportedBefore a b) :=
  inferInstanceAs (Decidable (_ \/ _))

def awaitingRelease (poolNS : String) (twins : List (Twin σ)) : List (Twin σ) :=
  (twins.filter fun t => decide (t.key.ns ≠ poolNS) || t.terminating).insertionSort reportedBefore

def ofSource (twins : List (Twin σ)) : List (Twin σ) := twins.filter fun t => sourceOf t = some src

def gateTwins : Handing σ (Except String (List (Twin σ))) := do
  match <- workloadTwins src.name with
  | .error e => pure (.error (wrapped "list compiledvms uncached" e))
  | .ok items => pure (.ok (ofSource src items))

def condMoving : String := "Moving"

def setMoving (status : ConditionStatus) (reason message : String) : Handing σ (Except String Unit) :=
  let cur := vm.conditions.find? fun c => c.type == condMoving
  if status = .isFalse /\ cur.all (·.status = .isFalse) then pure (.ok ())
  else
    let set := setStatusCondition vm.conditions
      { type := condMoving, status, reason, message, observedGeneration := vm.generation }
    if !set.2 then pure (.ok ())
    else do
      let reply <- patchVMStatus src { vm with conditions := set.1 }
      pure (reply.mapError ApiError.text)

section

def compileVM (rest : σ) : Twin σ where
  key := ⟨poolNamespace vm.clusterName, compiledTwinName src⟩
  uid := 0
  resourceVersion := 0
  sourceNamespace := src.ns
  sourceName := src.name
  workload := src.name
  finalizer := true
  terminating := false
  spec := { clusterName := vm.clusterName, rest }
  released := false

def teardown (src : NamespacedName) (vm : VirtualMachine) : Handing σ (Except String Unit) := do
  match <- cachedTwins with
  | .error e => pure (.error (wrapped "teardown compiledvm" e))
  | .ok items =>
    match <- retireEach "teardown" (ofSource src items) with
    | .error text => pure (.error text)
    | .ok () =>
      if !vm.finalizer then pure (.ok ())
      else do
        let reply <- updateVM src { vm with finalizer := false }
        pure (reply.mapError ApiError.text)

def ensureVMFinalizer : Handing σ (Except ApiError Unit) :=
  if vm.finalizer then pure (.ok ()) else updateVM src { vm with finalizer := true }

def hold (held : List (Twin σ)) : Handing σ (Except String Unit) := do
  match <- retireEach "retire" (held.filter fun t => t.key.ns ≠ poolNamespace vm.clusterName) with
  | .error text => pure (.error text)
  | .ok () =>
    let pools := (held.map fun t => t.spec.clusterName).destutter (· ≠ ·)
    setMoving src vm .isTrue "WaitingForSourceRelease" ("waiting for pool(s) " ++ ", ".intercalate pools ++
        " to release the VM before it starts on " ++ vm.clusterName)

variable [DecidableEq σ]

def upsert (src : NamespacedName) (vm : VirtualMachine) : Handing σ (Except String Unit) := do
  let moved := setMoving src vm .isFalse "Moved" ("running on pool " ++ vm.clusterName)
  match <- compileInputs src with
  | .error e => pure (.error (wrapped "list nics" e))
  | .ok rest =>
    let compiled := compileVM src vm rest
    match <- cachedTwin compiled.key with
    | .error .notFound => do
      match <- createTwin compiled with
      | .error e => pure (.error (wrapped "create compiledvm" e))
      | .ok () => moved
    | .error e => pure (.error e.text)
    | .ok existing =>
      if existing.spec = compiled.spec /\ existing.workload = compiled.workload /\
          existing.finalizer = true then moved
      else do
        match <- updateTwin { existing with
          finalizer := true, spec := compiled.spec, workload := compiled.workload } with
        | .error e => pure (.error (wrapped "update compiledvm" e))
        | .ok () => moved

def passGate (src : NamespacedName) (vm : VirtualMachine) : Handing σ (Except String Unit) := do
  match <- gateTwins src with
  | .error text => pure (.error text)
  | .ok twins =>
    match awaitingRelease (poolNamespace vm.clusterName) twins with
    | [] => upsert src vm
    | held => hold src vm held

def reconcile (src : NamespacedName) : Handing σ (Except String Unit) := do
  match <- getVM src with
  | .error .notFound => pure (.ok ())
  | .error e => pure (.error e.text)
  | .ok vm =>
    if vm.terminating then teardown src vm
    else do
      match <- ensureVMFinalizer src vm with
      | .error e => pure (.error (wrapped "ensure compiledvm finalizer" e))
      | .ok () => if vm.clusterName = "" then pure (.ok ()) else passGate src vm

def completeRelease (key : NamespacedName) : Handing σ (Except String Unit) := do
  match <- cachedTwin key with
  | .error .notFound => pure (.ok ())
  | .error e => pure (.error e.text)
  | .ok twin =>
    if !twin.terminating || !twin.released then pure (.ok ())
    else if !twin.finalizer then pure (.ok ())
    else do
      let reply <- updateTwin { twin with finalizer := false }
      pure (reply.mapError ApiError.text)

end

end Ectobase.Handover
