import Ectobase.Dispatch.ClusterPool
import Ectobase.Shared.Store

namespace Ectobase.Dispatch

open Shared List Option Store NetPrefix

structure ObjectKey where
  namespace_ : String
  name : String
  namespace_plain : '/' ∉ namespace_.toList
  name_plain : '/' ∉ name.toList
  deriving DecidableEq

def ObjectKey.text (k : ObjectKey) : String :=
  k.namespace_ ++ "/" ++ k.name

lemma ObjectKey.text_injective {a b : ObjectKey} (same : a.text = b.text) : a = b := by
  have chars : a.namespace_.toList ++ '/' :: a.name.toList = b.namespace_.toList ++ '/' :: b.name.toList := by
    simpa [ObjectKey.text] using congrArg String.toList same
  have split (xs ys xs' ys' : List Char) (left : '/' ∉ xs) (right : '/' ∉ xs')
    (joined : xs ++ '/' :: ys = xs' ++ '/' :: ys') : xs = xs' /\ ys = ys' := by
    induction xs generalizing xs' with
    | nil =>
      cases xs' with
      | nil => exact ⟨rfl, (cons.inj joined).2⟩
      | cons c rest =>
        exact absurd ((cons.inj joined).1 ▸ mem_cons_self) right
    | cons c rest ih =>
      cases xs' with
      | nil => exact absurd ((cons.inj joined).1 ▸ mem_cons_self) left
      | cons c' rest' =>
        obtain ⟨same, joined⟩ := cons.inj joined
        obtain ⟨rfl, rfl⟩ := ih rest' (fun later => left (mem_cons_of_mem _ later))
          (fun later => right (mem_cons_of_mem _ later)) joined
        exact ⟨congrArg (· :: rest) same, rfl⟩
  obtain ⟨front, back⟩ := split _ _ _ _ a.namespace_plain b.namespace_plain chars
  obtain ⟨na, a, pa, qa⟩ := a
  obtain ⟨nb, b, pb, qb⟩ := b
  obtain rfl := String.toList_inj.mp front
  obtain rfl := String.toList_inj.mp back
  rfl

structure Node where
  name : String
  underlayPrefix : Option String
  deriving DecidableEq, Repr

structure VirtualMachineInstance where
  key : ObjectKey
  nodeName : Option String
  deriving DecidableEq

def VirtualMachineInstance.node (vmi : VirtualMachineInstance) : Option String :=
  vmi.nodeName.filter fun n => n ≠ ""

inductive ReadError where
  | notFound
  | noMatch
  | failed (message : String)
  deriving DecidableEq, Repr

inductive ListError where
  | read (e : ReadError)
  | discoveryFailed (versions : List (String × ReadError))
  deriving DecidableEq, Repr

def kubevirtAbsent : ListError -> Bool
  | .discoveryFailed versions =>
    versions.all (fun v => v.2 = .notFound \/ v.2 = .noMatch) && !versions.isEmpty
  | .read e => e = .noMatch

inductive KubeVirt where
  | absent (answer : ListError) (recognised : kubevirtAbsent answer = true)
  | installed (virtualMachines : List ObjectKey) (instances : Store VirtualMachineInstance.key)

def KubeVirt.virtualMachines : KubeVirt -> List ObjectKey
  | .absent _ _ => []
  | .installed vms _ => vms

def KubeVirt.instances : KubeVirt -> List VirtualMachineInstance
  | .absent _ _ => []
  | .installed _ vmis => vmis.items

structure Downstream where
  nodes : Store Node.name
  compiledVMs : List ObjectKey
  kubevirt : KubeVirt

structure NodeFact where
  name : String
  pfx : String
  deriving DecidableEq, Repr

def nodePrefixesFromNodes (nodes : List NodeFact) : List String :=
  nodes.foldl (fun out n => if n.pfx = "" \/ n.pfx ∈ out then out else out ++ [n.pfx]) []

def prefixBusy (fenced : String) (busy : List String) (busyNets : List NetPrefix) : Bool :=
  if fenced ∈ busy then true
  else
    match parse fenced with
    | none => false
    | some f => busyNets.any fun b => f.masked.overlaps b

def drainStatus (fenced busy : List String) (unplaced : Bool) : List NodeDrainStatus :=
  let busyNets := busy.filterMap fun p => (parse p).map masked
  fenced.map fun p => { pfx := p, drained := !unplaced && !prefixBusy p busy busyNets }

structure StatusPatch where
  nodePrefixes : List String
  nodeDrain : Option (List NodeDrainStatus)
  deriving DecidableEq, Repr

def prefixOf (nodes : List NodeFact) (nodeName : String) : String :=
  let nodePrefix := nodes.foldl (fun m n => putKey n.name n.pfx m) []
  (nodePrefix.lookup nodeName).getD ""

def Broker.reportStatus (pool : ClusterPool) (nodes : List NodeFact)
  (vmNode : List (String × String)) (vmsKnown : Bool) : StatusPatch :=
  let prefixes := vmNode.map fun vm => prefixOf nodes vm.2
  let busy := prefixes.filter fun p => p ≠ ""
  let unplaced := prefixes.any fun p => p == ""
  { nodePrefixes := nodePrefixesFromNodes nodes
    nodeDrain := if vmsKnown then some (drainStatus pool.status.fencedPrefixes busy unplaced) else none }

structure ReadFailures where
  nodes : Option String
  instances : Option String

def gatherNodes (d : Downstream) (fails : ReadFailures) : Except String (List NodeFact) :=
  match fails.nodes with
  | some e => .error ("list nodes: " ++ e)
  | none => .ok (d.nodes.items.map fun n => { name := n.name, pfx := n.underlayPrefix.getD "" })

def listInstances (d : Downstream) (fails : ReadFailures) : Except ListError (List VirtualMachineInstance) :=
  match d.kubevirt with
  | .absent answer _ => .error answer
  | .installed _ instances =>
    match fails.instances with
    | some e => .error (.read (.failed e))
    | none => .ok instances.items

def gatherStep (out : List (String × String)) (vmi : VirtualMachineInstance) : List (String × String) :=
  match vmi.node with
  | none => out
  | some nodeName => putKey vmi.key.text nodeName out

def gatherVMNodes (d : Downstream) (fails : ReadFailures) : Except ListError (List (String × String)) :=
  match listInstances d fails with
  | .error e => if kubevirtAbsent e then .ok [] else .error e
  | .ok instances => .ok (instances.foldl gatherStep [])

def reportOnce (d : Downstream) (fails : ReadFailures) (pool : ClusterPool) : Except String StatusPatch :=
  match gatherNodes d fails with
  | .error e => .error ("gather nodes: " ++ e)
  | .ok nodes =>
    match gatherVMNodes d fails with
    -- Where VMs run is unknown: the drain report stays as stored.
    | .error _ => .ok (Broker.reportStatus pool nodes [] false)
    | .ok vmNode => .ok (Broker.reportStatus pool nodes vmNode true)

def Downstream.nodePrefix (d : Downstream) (nodeName : String) : String :=
  ((d.nodes.find nodeName).bind Node.underlayPrefix).getD ""

def Meets (p q : String) : Prop :=
  ∃ f g, parse p = some f /\ parse q = some g /\ ∃ a, f.contains a = true /\ g.contains a = true

lemma prefixBusy_iff {p : String} {busy : List String} :
  prefixBusy p busy (busy.filterMap fun p => (parse p).map masked) = true ↔ ∃ q ∈ busy, q = p \/ Meets p q := by
  unfold prefixBusy
  split
  next listed => simp only [true_iff]; exact ⟨p, listed, .inl rfl⟩
  next unlisted =>
    have apart : ∀ q ∈ busy, q ≠ p := fun q member same => unlisted (same ▸ member)
    cases parsed : parse p with
    | none =>
      simp only [Bool.false_eq_true, false_iff]
      rintro ⟨q, member, same | ⟨f, g, read, -⟩⟩
      · exact apart q member same
      · exact absurd (parsed.symm.trans read) nofun
    | some f =>
      simp only [List.any_eq_true, List.mem_filterMap, Option.map_eq_some_iff, overlaps_iff, masked_contains]
      constructor
      · rintro ⟨_, ⟨q, member, g, read, rfl⟩, a, inP, inQ⟩
        rw [masked_contains] at inQ
        exact ⟨q, member, .inr ⟨f, g, parsed, read, a, inP, inQ⟩⟩
      · rintro ⟨q, member, same | ⟨f', g, read', read, a, inP, inQ⟩⟩
        · exact absurd same (apart q member)
        · obtain rfl : f = f' := mem_unique parsed read'
          exact ⟨g.masked, ⟨q, member, g, read, rfl⟩, a, inP, by rwa [masked_contains]⟩

lemma prefixOf_gathered (d : Downstream) (nodeName : String) :
  prefixOf (d.nodes.items.map fun n => { name := n.name, pfx := n.underlayPrefix.getD "" })
    nodeName = d.nodePrefix nodeName := by
  have found := lookup_foldl_putKey Node.name (fun n => n.underlayPrefix.getD "") d.nodes.items d.nodes.nodup [] nodeName
  unfold prefixOf Downstream.nodePrefix
  rw [foldl_map]
  dsimp only
  rw [found]
  change (((d.nodes.find nodeName).map _).or _).getD "" = _
  cases d.nodes.find nodeName with
  | none => rfl
  | some node => cases h : node.underlayPrefix <;> simp [h]

lemma gathered_nodes (instances : Store VirtualMachineInstance.key) : (instances.items.foldl gatherStep []).map Prod.snd =
    instances.items.filterMap VirtualMachineInstance.node := by
  have fold (items : List VirtualMachineInstance)
    (distinct : (items.map VirtualMachineInstance.key).Nodup) (out : List (String × String))
    (fresh : ∀ vmi ∈ items, vmi.key.text ∉ out.map Prod.fst) :
    (items.foldl gatherStep out).map Prod.snd = out.map Prod.snd ++ items.filterMap VirtualMachineInstance.node := by
    induction items generalizing out with
    | nil => simp
    | cons vmi rest ih =>
      rw [map_cons, nodup_cons] at distinct
      have later : ∀ other ∈ rest, other.key.text ≠ vmi.key.text := fun other member same =>
        distinct.1 (ObjectKey.text_injective same ▸ mem_map_of_mem member)
      rw [foldl_cons, gatherStep]
      cases scheduled : vmi.node with
      | none =>
        rw [filterMap_cons_none scheduled]
        exact ih distinct.2 out fun other member => fresh other (mem_cons_of_mem _ member)
      | some n =>
        dsimp only
        rw [filterMap_cons_some scheduled, putKey_of_notMem (fresh vmi mem_cons_self), ih distinct.2]
        · simp
        · intro other member
          simp only [map_append, mem_append, not_or]
          exact ⟨fresh other (mem_cons_of_mem _ member), by simpa using later other member⟩
  simpa using fold instances.items instances.nodup [] (by simp)

section

variable (d : Downstream) (fails : ReadFailures) (pool : ClusterPool) (p : String)

def ReportsDrained : Prop :=
  ∃ patch drain, reportOnce d fails pool = .ok patch /\ patch.nodeDrain = some drain /\ { pfx := p, drained := true } ∈ drain

structure NothingLeft (moved : ObjectKey -> Prop) : Prop where
  compiledVMs : ∀ k ∈ d.compiledVMs, ¬ moved k
  virtualMachines : ∀ k ∈ d.kubevirt.virtualMachines, ¬ moved k
  instances : ∀ vmi ∈ d.kubevirt.instances, moved vmi.key ->
    ∃ n node q f g, vmi.node = some n /\ node ∈ d.nodes.items /\ node.name = n /\
      node.underlayPrefix = some q /\ parse p = some f /\ parse q = some g /\
      ∀ a, ¬ (f.contains a = true /\ g.contains a = true)

def Unreported : Prop :=
  fails.nodes.isSome \/ (fails.instances.isSome /\ ∃ vms vmis, d.kubevirt = .installed vms vmis) \/
    p ∉ pool.status.fencedPrefixes

-- An instance on a node with no known prefix, with this one, or with one that shares an address.
def Held : Prop :=
  ∃ vmi ∈ d.kubevirt.instances, ∃ n, vmi.node = some n /\
    (d.nodePrefix n = "" \/ d.nodePrefix n = p \/ Meets p (d.nodePrefix n))

-- What the report does not look at is not there for the VMs in moved.
structure NothingUnseen (moved : ObjectKey -> Prop) : Prop where
  compiledVMs : ∀ k ∈ d.compiledVMs, ¬ moved k
  virtualMachines : ∀ k ∈ d.kubevirt.virtualMachines, ¬ moved k
  instances : ∀ vmi ∈ d.kubevirt.instances, moved vmi.key ->
    ∃ n, vmi.node = some n /\ (parse p).isSome /\ (parse (d.nodePrefix n)).isSome

variable {d fails pool p}

lemma drainStatus_drained {fenced busy : List String} {unplaced : Bool} :
  { pfx := p, drained := true } ∈ drainStatus fenced busy unplaced ↔
    p ∈ fenced /\ unplaced = false /\ ∀ q ∈ busy, q ≠ p /\ ¬ Meets p q := by
  have idle : prefixBusy p busy (busy.filterMap fun p =>
      (parse p).map masked) = false ↔ ∀ q ∈ busy, q ≠ p /\ ¬ Meets p q := by
    rw [<- Bool.not_eq_true, prefixBusy_iff]
    simp only [not_exists, not_and, not_or, ne_eq]
  unfold drainStatus
  simp only [List.mem_map, NodeDrainStatus.mk.injEq, Bool.and_eq_true, Bool.not_eq_true']
  constructor
  · rintro ⟨q, member, rfl, placed, free⟩
    exact ⟨member, placed, idle.mp free⟩
  · rintro ⟨member, placed, free⟩
    exact ⟨p, member, rfl, placed, idle.mpr free⟩

lemma gatherVMNodes_cases (d : Downstream) (fails : ReadFailures) : (∃ vmNode, gatherVMNodes d fails = .ok vmNode /\
    vmNode.map Prod.snd = d.kubevirt.instances.filterMap VirtualMachineInstance.node /\
    ¬ (fails.instances.isSome /\ ∃ vms vmis, d.kubevirt = .installed vms vmis)) \/
  (∃ e, gatherVMNodes d fails = .error e) /\ fails.instances.isSome /\ ∃ vms vmis, d.kubevirt = .installed vms vmis := by
  cases served : d.kubevirt with
  | absent answer recognised =>
    refine .inl ⟨[], ?_, rfl, fun failing => nomatch failing.2⟩
    simp [gatherVMNodes, listInstances, served, recognised]
  | installed vms vmis =>
    cases failing : fails.instances with
    | none =>
      refine .inl ⟨vmis.items.foldl gatherStep [], ?_, gathered_nodes vmis, by simp⟩
      simp [gatherVMNodes, listInstances, served, failing]
    | some e =>
      refine .inr ⟨⟨.read (.failed e), ?_⟩, rfl, vms, vmis, rfl⟩
      simp [gatherVMNodes, listInstances, served, failing, kubevirtAbsent]

lemma reportsDrained_iff : ReportsDrained d fails pool p ↔ ¬ Unreported d fails pool p /\ ¬ Held d p := by
  unfold ReportsDrained Unreported Held reportOnce gatherNodes
  cases nodesFail : fails.nodes with
  | some e => simp
  | none =>
    rcases gatherVMNodes_cases d fails with ⟨vmNode, gathered, nodes, listed⟩ | ⟨⟨e, failed⟩, unknown⟩
    · have prefixes : (vmNode.map fun vm => prefixOf (d.nodes.items.map fun n =>
          { name := n.name, pfx := n.underlayPrefix.getD "" }) vm.2) =
          (d.kubevirt.instances.filterMap VirtualMachineInstance.node).map d.nodePrefix := by
        rw [<- nodes, List.map_map]
        exact map_congr_left fun vm _ => prefixOf_gathered d vm.2
      simp only [gathered, Broker.reportStatus, prefixes, if_true]
      constructor
      · rintro ⟨_, _, ⟨⟩, ⟨⟩, drained⟩
        obtain ⟨fenced, placed, idle⟩ := drainStatus_drained.mp drained
        refine ⟨by simp [listed, fenced], ?_⟩
        rintro ⟨vmi, member, n, scheduled, why⟩
        have counted : d.nodePrefix n ∈ (d.kubevirt.instances.filterMap VirtualMachineInstance.node).map d.nodePrefix :=
          mem_map_of_mem (mem_filterMap.mpr ⟨vmi, member, scheduled⟩)
        have known : d.nodePrefix n ≠ "" := by
          simpa using any_eq_false.mp placed _ counted
        have free := idle _ (mem_filter.mpr ⟨counted, by simpa using known⟩)
        exact why.elim known fun why => why.elim free.1 free.2
      · rintro ⟨reported, free⟩
        simp only [not_or, not_not] at reported
        refine ⟨_, _, rfl, rfl, drainStatus_drained.mpr ⟨reported.2.2, ?_, fun q busy => ?_⟩⟩
        · refine any_eq_false.mpr fun q counted => ?_
          obtain ⟨n, scheduled, rfl⟩ := mem_map.mp counted
          obtain ⟨vmi, member, scheduled⟩ := mem_filterMap.mp scheduled
          simpa using fun empty => free ⟨vmi, member, n, scheduled, .inl empty⟩
        · obtain ⟨n, scheduled, rfl⟩ := mem_map.mp (mem_of_mem_filter busy)
          obtain ⟨vmi, member, scheduled⟩ := mem_filterMap.mp scheduled
          exact ⟨fun same => free ⟨vmi, member, n, scheduled, .inr (.inl same)⟩,
            fun meets => free ⟨vmi, member, n, scheduled, .inr (.inr meets)⟩⟩
    · simp [failed, Broker.reportStatus, unknown]

lemma nodePrefix_known {n : String} (known : d.nodePrefix n ≠ "") :
  ∃ node, d.nodes.find n = some node /\ node.underlayPrefix = some (d.nodePrefix n) := by
  cases found : d.nodes.find n with
  | none => simp [Downstream.nodePrefix, found] at known
  | some node =>
    cases annotated : node.underlayPrefix with
    | none => simp [Downstream.nodePrefix, found, annotated] at known
    | some q => exact ⟨node, rfl, by simp [Downstream.nodePrefix, found, annotated]⟩

theorem drain_report_sound_iff (d : Downstream) (fails : ReadFailures) (pool : ClusterPool)
  (p : String) (moved : ObjectKey -> Prop) :
  (ReportsDrained d fails pool p -> NothingLeft d p moved) ↔
    Unreported d fails pool p \/ Held d p \/ NothingUnseen d p moved := by
  rw [reportsDrained_iff]
  constructor
  · intro sound
    by_cases unreported : Unreported d fails pool p
    · exact .inl unreported
    · by_cases held : Held d p
      · exact .inr (.inl held)
      · have left := sound ⟨unreported, held⟩
        refine .inr (.inr ⟨left.compiledVMs, left.virtualMachines, fun vmi member out => ?_⟩)
        obtain ⟨n, node, q, f, g, scheduled, listed, rfl, annotated, parsed, parsed', -⟩ :=
          left.instances vmi member out
        have known : d.nodePrefix node.name = q := by
          rw [Downstream.nodePrefix, find_of_mem listed, bind_some, annotated, getD_some]
        exact ⟨node.name, scheduled, by rw [parsed]; rfl, by rw [known, parsed']; rfl⟩
  · rintro (unreported | held | unseen) ⟨reported, free⟩
    · exact absurd unreported reported
    · exact absurd held free
    · refine ⟨unseen.compiledVMs, unseen.virtualMachines, fun vmi member out => ?_⟩
      obtain ⟨n, scheduled, parses, parses'⟩ := unseen.instances vmi member out
      obtain ⟨f, parsed⟩ := isSome_iff_exists.mp parses
      obtain ⟨g, parsed'⟩ := isSome_iff_exists.mp parses'
      have notHeld := fun why => free ⟨vmi, member, n, scheduled, why⟩
      have named : d.nodePrefix n ≠ "" := fun empty => notHeld (.inl empty)
      have apart : ¬ Meets p (d.nodePrefix n) := fun meets => notHeld (.inr (.inr meets))
      obtain ⟨node, found, annotated⟩ := nodePrefix_known named
      exact ⟨n, node, _, f, g, scheduled, mem_of_find found, find_key found, annotated,
        parsed, parsed', fun a shared => apart ⟨f, g, parsed, parsed', a, shared⟩⟩

end

def movedKey : ObjectKey where
  namespace_ := "tenant"
  name := "vm"
  namespace_plain := by decide
  name_plain := by decide

def fencedPool : ClusterPool where
  name := "a"
  resourceVersion := 1
  generation := 1
  creationTimestamp := 0
  labels := []
  underlayPrefix := "fd00:1::/48"
  status :=
    { phase := .ready, conditions := [], allocatable := .empty, lease := none,
      nodePrefixes := [], fencedPrefixes := ["fd00:1::/48"], nodeDrain := [] }

def oneNode (pfx : String) : Store Node.name :=
  empty.put { name := "node", underlayPrefix := some pfx }

def instanceOn (nodeName : Option String) : Store VirtualMachineInstance.key :=
  empty.put { key := movedKey, nodeName }

def startingUp : Downstream where
  nodes := oneNode "fd00:1:0:1::/64"
  compiledVMs := [movedKey]
  kubevirt := .installed [movedKey] (instanceOn none)

def malformedPrefix : Downstream where
  nodes := oneNode "fd00:1:0:1::"
  compiledVMs := []
  kubevirt := .installed [] (instanceOn (some "node"))

def allRead : ReadFailures where
  nodes := none
  instances := none

theorem drained_while_vm_left : (ReportsDrained startingUp allRead fencedPool "fd00:1::/48" /\
      ¬ NothingLeft startingUp "fd00:1::/48" fun k => k = movedKey) /\
    (ReportsDrained malformedPrefix allRead fencedPool "fd00:1::/48" /\
      ¬ NothingLeft malformedPrefix "fd00:1::/48" fun k => k = movedKey) := by
  refine ⟨⟨?_, fun left => ?_⟩, ?_, fun left => ?_⟩
  · exact ⟨{ nodePrefixes := ["fd00:1:0:1::/64"],
             nodeDrain := some [{ pfx := "fd00:1::/48", drained := true }] }, _,
      by decide +kernel, rfl, mem_singleton_self _⟩
  · exact left.compiledVMs movedKey (by decide +kernel) rfl
  · exact ⟨{ nodePrefixes := ["fd00:1:0:1::"],
             nodeDrain := some [{ pfx := "fd00:1::/48", drained := true }] }, _,
      by decide +kernel, rfl, mem_singleton_self _⟩
  · obtain ⟨n, node, q, f, g, -, listed, -, annotated, -, parsed, -⟩ :=
      left.instances _ (mem_singleton_self _) rfl
    obtain rfl : node = { name := "node", underlayPrefix := some "fd00:1:0:1::" } :=
      mem_singleton.mp listed
    obtain rfl : "fd00:1:0:1::" = q := some.inj annotated
    have malformed : parse "fd00:1:0:1::" = none := by decide +kernel
    exact absurd (malformed.symm.trans parsed) nofun

end Ectobase.Dispatch
