import Ectobase.Dispatch.FailoverCalls

namespace Ectobase.Dispatch

open Shared
open Mesh (RouteKey RouteHolding)

structure Reconciler (F : Type) where
  libs : Libraries F
  routes : Bool
  failoverThreshold : Int
  healthStale : Int

def defaultHealthStale : Int := 30 * 10 ^ 9

def routeRecheck : Int := 5 * 10 ^ 9

def routeBatch : Nat := 5000

def conditionFenceReleaseBlocked : String := "FenceReleaseBlocked"

variable (lostPool message : String) (pool : ClusterPool)

def hostPrefix (ip : String) : Option String :=
  (parseIP ip).map fun bytes => if (to4 bytes).isSome then ip ++ "/32" else ip ++ "/128"

def describeTwin (t : CompiledNIC) : String := let src := t.sourceNamespace ++ "/" ++ t.sourceName
  let src := if src = "/" then t.namespace_ ++ "/" ++ t.name else src
  let pool := if t.clusterName = "" then (t.namespace_.dropPrefix (poolNamespace "")).toString
    else t.clusterName
  "nic " ++ src ++ " on pool " ++ pool

def hostKeys (t : CompiledNIC) : List RouteKey :=
  (t.overlayIPs.filterMap hostPrefix).map fun pfx => { vni := UInt32.ofInt t.vni, pfx }

def claimKey (who : String) (owner : List (RouteKey × String)) (k : RouteKey) : List (RouteKey × String) :=
  if k ∈ owner.map Prod.fst then owner else owner ++ [(k, who)]

def ownersElsewhere (nics : List CompiledNIC) : List (RouteKey × String) := nics.foldl (fun owner t =>
    if t.namespace_ = poolNamespace lostPool \/ t.vni <= 0 then owner
    else (hostKeys t).foldl (claimKey (describeTwin t)) owner)
  []

def placedElsewhere : Pass (Except String (List (RouteKey × String))) := do
  match <- Ask.listNICs with
  | .error e => pure (.error ("list compilednics: " ++ e.text))
  | .ok nics => pure (.ok (ownersElsewhere lostPool nics))

def batches {α : Type} (n : Nat) (keys : List α) : List (List α) :=
  (List.range ((keys.length + n - 1) / n)).map fun i => (keys.drop (i * n)).take n

def RouteKey.text (k : RouteKey) : String := "vni " ++ toString k.vni.toNat ++ " " ++ k.pfx

def describeHeld (held : List RouteHolding) (owner : List (RouteKey × String)) : String :=
  let shown := 5
  let parts := (held.map fun h =>
    let node := if h.origin = "" then "an unnamed node" else h.origin
    RouteKey.text h.key ++ " from node " ++ node ++ " via " ++ h.nexthop ++ " (" ++
      (owner.lookup h.key).getD "" ++ ")").insertionSort (· <= ·)
  let parts := if parts.length > shown then
      parts.take shown ++ ["and " ++ toString (held.length - shown) ++ " more"]
    else parts
  ", ".intercalate parts

def heldWithin (pfx : String) : List (List RouteKey) -> List RouteHolding -> Pass (Except ApiError (List RouteHolding))
  | [], held => pure (.ok held)
  | batch :: rest, held => do
    match <- Ask.announcedFrom pfx batch with
    | .error e => pure (.error e)
    | .ok more => heldWithin pfx rest (held ++ more)

def routesGone {F : Type} (r : Reconciler F) (pfx : String) (owner : List (RouteKey × String)) :
  Pass (Option (String × String)) :=
  if owner = [] then pure none
  else if r.routes = false then
    pure (some ("RouteCheckFailed", pfx ++ ": no route reflector configured"))
  else do
    match <- heldWithin pfx (batches routeBatch (owner.map Prod.fst)) [] with
    | .error e =>
      pure (some ("RouteCheckFailed", pfx ++ ": cannot ask the reflector what it still announces: " ++ e.text))
    | .ok [] => pure none
    | .ok held =>
      pure (some ("RoutesStillAnnounced",
        pfx ++ " still announces addresses placed on other pools, waiting for their withdraw: " ++ describeHeld held owner))

def ownFences : Pass (List String × List String) := pool.status.fencedPrefixes.foldlM (fun (own, unverified) p => do
    match <- Ask.fencedFor p with
    | .error _ => pure (own ++ [p], unverified ++ [p])
    | .ok (some holder) =>
      pure (if holder = pool.name then (own ++ [p], unverified) else (own, unverified))
    | .ok none => pure (own, unverified))
  ([], [])

def setReleaseBlocked (reason : String) (blocked : List String) : ClusterPool × Bool :=
  let set (status : ConditionStatus) (reason message : String) : ClusterPool × Bool :=
    let out := setStatusCondition pool.status.conditions
      { type := conditionFenceReleaseBlocked, status, reason, message,
        observedGeneration := pool.generation }
    ({ pool with status := { pool.status with conditions := out.1 } }, out.2)
  if blocked ≠ [] then set .isTrue reason ("; ".intercalate blocked)
  else if isStatusConditionTrue pool.status.conditions conditionFenceReleaseBlocked then
    set .isFalse "RoutesWithdrawn" "no fenced prefix is waiting on a route"
  else (pool, false)

structure ReleaseState where
  remain : List String
  blocked : List String
  reason : String

def releaseOne {F : Type} (r : Reconciler F) (pool : ClusterPool) (drained unverified : List String)
  (placed : Except String (List (RouteKey × String))) (s : ReleaseState) (p : String) :
  Pass ReleaseState :=
  let hold := { s with remain := s.remain ++ [p] }
  if p ∉ drained \/ p ∈ unverified then pure hold
  else
    match placed with
    | .error e =>
      pure { hold with
        blocked := s.blocked ++ [p ++ ": cannot work out which addresses to check: " ++ e]
        reason := "RouteCheckFailed" }
    | .ok owner => do
      match <- routesGone r p owner with
      | some (why, message) =>
        pure { hold with
          blocked := s.blocked ++ [message]
          reason := if s.reason ≠ "RouteCheckFailed" then why else s.reason }
      | none =>
        match <- Ask.networkRelease p with
        | .error _ => pure hold
        | .ok () =>
          match <- Ask.storageRelease pool.name p with
          | .error _ => pure hold
          | .ok () => pure s

def lookupPlaced (due : Bool) : Pass (Except String (List (RouteKey × String))) :=
  if due then placedElsewhere lostPool else pure (.ok [])

-- The fences that remain and the condition are stored if they changed.
def storeRelease (out : ReleaseState) : Pass (ClusterPool × Bool × Option ApiError) :=
  let changed := decide (pool.status.fencedPrefixes ≠ out.remain)
  let trimmed := if changed then
      { pool with status := { pool.status with fencedPrefixes := out.remain } }
    else pool
  let (pool, conditionChanged) := setReleaseBlocked trimmed out.reason out.blocked
  let waiting := decide (out.blocked ≠ [])
  if changed || conditionChanged then do
    match <- Ask.updatePoolStatus pool with
    | .error e => pure (pool, waiting, some e)
    | .ok stored => pure (stored, waiting, none)
  else pure (pool, waiting, none)

def releaseDrained {F : Type} (r : Reconciler F) (pool : ClusterPool) (reachable : Bool) :
  Pass (ClusterPool × Bool × Option ApiError) := do
  let (own, unverified) <- ownFences pool
  let drained := if reachable then pool.drainedPrefixes else []
  let placed <- lookupPlaced pool.name (own.any fun p => p ∈ drained /\ p ∉ unverified)
  let out <- own.foldlM (releaseOne r pool drained unverified placed)
    { remain := [], blocked := [], reason := "" }
  storeRelease pool out

def forgetDrain : Pass (Except String ClusterPool) :=
  let forgotten := pool.status.nodeDrain.map fun d => { d with drained := false }
  if pool.drainedPrefixes ≠ [] then do
    let pool := { pool with status := { pool.status with nodeDrain := forgotten } }
    match <- Ask.updatePoolStatus pool with
    | .error e => pure (.error ("forget drain report of lost pool " ++ pool.name ++ ": " ++ e.text))
    | .ok stored => pure (.ok stored)
  else pure (.ok pool)

def recordFenced (recorded fenced : List String) : List String :=
  fenced.foldl (fun out p => if p ∈ out then out else out ++ [p]) recorded

def setFencedPrefixes (fenced : List String) : Pass (Except ApiError ClusterPool) :=
  Ask.updatePoolStatus { pool with status := { pool.status with
    fencedPrefixes := recordFenced pool.status.fencedPrefixes fenced } }

def outsidePrefixes (aggregate : NetPrefix) (nodePrefixes : List String) : List String :=
  let inside (p : String) := (NetPrefix.parse p).any fun np => np.within aggregate
  (nodePrefixes.filter fun p => !inside p && p != "").eraseDups

def aggregateCoverage (aggregate : String) : List String × Bool × String :=
  match NetPrefix.parse aggregate with
  | none => ([], false, "spec.underlayPrefix " ++ aggregate.quote ++ " is not a CIDR")
  | some agg =>
    let outside := outsidePrefixes agg.masked pool.status.nodePrefixes
    if outside = [] then ([aggregate], true, "")
    else
      ([aggregate], false, "fenced spec.underlayPrefix " ++ aggregate ++
          ", but coverage is not provably complete: the pool reports node prefixes outside it ([" ++
          " ".intercalate outside ++
          "]), which are not fenced because the pool reports them itself. Either " ++
          "spec.underlayPrefix misses those nodes (correct it) or the report is wrong")

def fenceCoverage : List String × Bool × String := if pool.underlayPrefix = "" then
  ([], false, "ClusterPool " ++ pool.name ++ " declares no spec.underlayPrefix; failover fences only an " ++
    "operator-declared prefix, so it neither fences nor rebinds this pool")
  else
    let errs := validateUnderlayPrefix "spec.underlayPrefix" pool.underlayPrefix
    if errs ≠ [] then
      ([], false, "ClusterPool " ++ pool.name ++ ": " ++ aggregateText errs ++
        "; failover fences only a valid operator-declared prefix, " ++
        "so it neither fences nor rebinds this pool")
    else aggregateCoverage pool pool.underlayPrefix

-- The targets whose storage fence was applied are recorded either way.
def fenceTargets (pool : ClusterPool) : List String -> List String -> Pass (Except String (List String))
  | [], fenced => pure (.ok fenced)
  | p :: rest, fenced => do
    match <- Ask.storageFence pool.name p with
    | .error e =>
      let _ <- setFencedPrefixes pool fenced
      pure (.error ("storage fence unconfirmed for " ++ p ++ ": " ++ e.text))
    | .ok () =>
      let fenced := fenced ++ [p]
      match <- Ask.networkFence p with
      | .error e =>
        let _ <- setFencedPrefixes pool fenced
        pure (.error ("network fence unconfirmed for " ++ p ++ ": " ++ e.text))
      | .ok () => fenceTargets pool rest fenced

section

def block (vm : VirtualMachine) (message : String) : Pass (Except ApiError VirtualMachine) :=
  Ask.updateVMStatus { vm with
    conditions := (setStatusCondition vm.conditions
      { type := "FailoverBlocked", status := .isTrue, reason := "FenceUnconfirmed", message,
        observedGeneration := vm.generation }).1 }

def blockAll (message : String) : List VirtualMachine -> Pass (List String)
  | [] => pure []
  | vm :: rest => do
    match <- block vm message with
    | .error e => pure [e.text]
    | .ok _ => blockAll message rest

def blockPoolVMs : Pass (List String) := do
  match <- Ask.listVMs with
  | .error e => pure ["list vms: " ++ e.text]
  | .ok vms => blockAll message (vms.filter fun vm => vm.clusterName = lostPool)

def releaseTwin (errs : List String) (twin : CompiledVM) : Pass (List String) :=
  if twin.terminating = false \/ twin.released then pure errs
  else do
    match <- Ask.patchReleased twin with
    | .ok () | .error .notFound => pure errs
    | .error e =>
      pure (errs ++ ["release " ++ twin.namespace_ ++ "/" ++ twin.name ++ ": " ++ e.text])

def releaseFencedTwins : Pass (List String) := do
  match <- Ask.listTwins (poolNamespace lostPool) with
  | .error e => pure ["list compiledvms of " ++ lostPool ++ ": " ++ e.text]
  | .ok twins => twins.foldlM releaseTwin []

def failedOver (vm : VirtualMachine) (placement : Placement) : VirtualMachine :=
  let message := "failed over to " ++ placement.pool ++
    (if placement.violated then " (anti-affinity violated: no non-violating pool)" else "")
  let unblocked := (setStatusCondition vm.conditions
    { type := "FailoverBlocked", status := .isFalse, reason := "FailedOver", message,
      observedGeneration := vm.generation }).1
  { vm with
    conditions := (setStatusCondition unblocked
      { type := "Scheduled", status := .isTrue, reason := "FailedOver",
        message := "bound to " ++ placement.pool, observedGeneration := vm.generation }).1 }

def rebindOne (errs : List String) (item : VirtualMachine × Placement) : Pass (List String) := do
  let (vm, placement) := item
  if placement.ok = false then
    match <- block vm ("no pool to fail over to: " ++ placement.reason) with
    | .error e => pure (errs ++ ["block vm " ++ vm.name ++ ": " ++ e.text])
    | .ok _ => pure errs
  else
    match <- Ask.updateVM { vm with clusterName := placement.pool } with
    | .error e => pure (errs ++ ["rebind vm " ++ vm.name ++ ": " ++ e.text])
    | .ok vm =>
      match <- Ask.updateVMStatus (failedOver vm placement) with
      | .error e => pure (errs ++ ["status vm " ++ vm.name ++ ": " ++ e.text])
      | .ok _ => pure errs

variable {F : Type} [LinearOrder F] [Sub F] [Div F] [Zero F] [One F]

def rebindPoolVMs (r : Reconciler F) (lostPool : String) : Pass (List String) := do
  match <- Ask.listVMs with
  | .error e => pure ["list vms: " ++ e.text]
  | .ok vms =>
    match <- Ask.listPools with
    | .error e => pure ["list pools: " ++ e.text]
    | .ok pools =>
      let candidates := pools.filter fun p => p.name ≠ lostPool
      let batch := vms.filter fun vm => vm.clusterName = lostPool
      -- The whole batch is worked through even where single VMs fail.
      (batch.zip (scheduleBatch r.libs batch candidates)).foldlM rebindOne []

end

section

variable {F : Type} [LinearOrder F] [Sub F] [Div F] [Zero F] [One F] (r : Reconciler F)

structure Verdict where
  requeueAfter : Int
  errs : List String
  deriving DecidableEq, Repr

def failOver (pool : ClusterPool) : Pass Verdict := do
  match <- forgetDrain pool with
  | .error e => pure { requeueAfter := 0, errs := [e] }
  | .ok pool =>
    let (targets, complete, why) := fenceCoverage pool
    let blocked (message : String) : Pass Verdict := do
      let errs <- blockPoolVMs pool.name message
      pure { requeueAfter := r.failoverThreshold, errs }
    if targets = [] then blocked why
    else
      match <- fenceTargets pool targets [] with
      | .error message => blocked message
      | .ok fenced =>
        match <- setFencedPrefixes pool fenced with
        | .error e => pure { requeueAfter := 0, errs := [e.text] }
        | .ok _ =>
          if complete = false then blocked why
          else do
            let releaseErrs <- releaseFencedTwins pool.name
            let rebindErrs <- rebindPoolVMs r pool.name
            pure { requeueAfter := r.failoverThreshold, errs := releaseErrs ++ rebindErrs }

def reconcile (name : String) : Pass Verdict := do
  match <- Ask.getPool name with
  | .error .notFound => pure { requeueAfter := 0, errs := [] }
  | .error e => pure { requeueAfter := 0, errs := [e.text] }
  | .ok pool =>
    let healthStale := if r.healthStale = 0 then defaultHealthStale else r.healthStale
    let now <- Ask.now
    let (pool, waiting, failed) <- releaseDrained r pool (reachable pool now healthStale)
    match failed with
    | some e => pure { requeueAfter := 0, errs := [e.text] }
    | none =>
      let now <- Ask.now
      if poolLost pool now r.failoverThreshold = false then
        pure { requeueAfter := if waiting then routeRecheck else r.failoverThreshold,
               errs := [] }
      else failOver r pool

end

end Ectobase.Dispatch
