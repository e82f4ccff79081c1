import Ectobase.Handover.Gate
import Ectobase.Mesh.Desired

namespace Ectobase.Handover

open Shared
open Mesh (NamespacedName keyed)
open Dispatch (ApiError poolNamespace)

variable {σ : Type}

section

def mirror (t : Twin σ) : CompiledVM σ where
  key := downstreamKey t
  spec := t.spec
  workload := t.workload

variable [DecidableEq σ]

def syncCurrent (pool : String) (want : Map NamespacedName (Twin σ)) (errs : List String)
  (cur : CompiledVM σ) : Handing σ (List String) :=
  match want.lookup cur.key with
  | none => do
    match <- deleteCompiled pool cur.key with
    | .ok () | .error .notFound => pure errs
    | .error e => pure (errs ++ [wrapped ("gc vm " ++ cur.key.ns ++ "/" ++ cur.key.name) e])
  | some w =>
    if cur.spec = w.spec /\ cur.workload = w.workload then pure errs
    else do
      match <- updateCompiled pool { cur with spec := w.spec, workload := w.workload } with
      | .ok () => pure errs
      | .error e => pure (errs ++ [wrapped ("update vm " ++ cur.key.ns ++ "/" ++ cur.key.name) e])

omit [DecidableEq σ] in
def syncMissing (pool : String) (errs : List String) (w : Twin σ) : Handing σ (List String) := do
  match <- createCompiled pool (mirror w) with
  | .ok () => pure errs
  | .error e =>
    pure (errs ++ [wrapped ("create vm " ++ downstreamNamespace w ++ "/" ++ w.key.name) e])

-- order is how Go's loop over the wanted twins visits the map.
def syncCompiledVMs (pool : String) (order : List NamespacedName) : Handing σ (List String) := do
  match <- poolTwins pool with
  | .error e => pure [wrapped "list dispatch vms" e]
  | .ok items =>
    -- A twin that is being deleted is not wanted, even while its finalizer keeps it.
    let want := keyed downstreamKey (items.filter fun t => !t.terminating)
    match <- listCompiled pool with
    | .error e => pure [wrapped "list downstream vms" e]
    | .ok have_ => do
      let errs <- have_.foldlM (syncCurrent pool want) []
      let missing := order.filter fun k => decide (k ∉ have_.map CompiledVM.key)
      (missing.filterMap want.lookup).foldlM (syncMissing pool) errs

end

def allGone (pool : String) (key : NamespacedName) : List Kind -> Handing σ (Except ApiError Bool)
  | [] => pure (.ok true)
  | kind :: rest => do
    match <- look pool kind key with
    | .ok () => pure (.ok false)
    | .error (.api .notFound) => allGone pool key rest
    | .error .noMatch => allGone pool key rest
    | .error (.api e) => pure (.error e)

def noClaims (pool : String) (twin : Twin σ) : Handing σ (Except ApiError Bool) :=
  if twin.workload = "" then pure (.ok true)
  else do
    match <- listClaims pool (downstreamNamespace twin) twin.workload with
    | .error e => pure (.error e)
    | .ok claims => pure (.ok claims.isEmpty)

def letGo (pool : String) (twin : Twin σ) : Handing σ (Except ApiError Bool) := do
  let key := downstreamKey twin
  match <- allGone pool key [.compiledVM, .virtualMachine, .virtualMachineInstance] with
  | .error e => pure (.error e)
  | .ok false => pure (.ok false)
  | .ok true => do
    match <- listLaunchers pool key.ns with
    | .error e => pure (.error e)
    | .ok pods =>
      if pods.any (·.runs key.name) then pure (.ok false) else noClaims pool twin

structure Report where
  pending : Bool
  errs : List String
  deriving DecidableEq, Repr

def reportTwin (pool : String) (report : Report) (twin : Twin σ) : Handing σ Report :=
  if !twin.terminating || twin.released then pure report
  else do
    match <- letGo pool twin with
    | .error e =>
      pure ⟨true, report.errs ++ [wrapped ("check release of " ++ twin.key.name) e]⟩
    | .ok false => pure { report with pending := true }
    | .ok true => do
      match <- patchReleased { twin with released := true } with
      | .ok () | .error .notFound => pure report
      | .error .conflict => pure { report with pending := true }
      | .error e =>
        pure ⟨true, report.errs ++ [wrapped ("report release of " ++ twin.key.name) e]⟩

def reportReleases (pool : String) : Handing σ Report := do
  match <- poolTwins pool with
  | .error e => pure ⟨false, [wrapped "list dispatch vms" e]⟩
  | .ok items => items.foldlM (reportTwin pool) ⟨false, []⟩

end Ectobase.Handover
