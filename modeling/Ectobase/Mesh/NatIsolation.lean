import Ectobase.Mesh.Desired
import Ectobase.Mesh.IPClaims
import Ectobase.Mesh.NatBlocks
import Ectobase.Mesh.NicRuns

namespace Ectobase.Mesh

open Shared List Fabric

structure CompiledNATSource where
  sourceIP : String
  natIP : String
  portMin : Int32
  portMax : Int32
  deriving DecidableEq, Repr

def CompiledNATSource.block (entry : CompiledNATSource) : PortBlock where
  publicIP := entry.natIP
  portMin := entry.portMin
  portMax := entry.portMax

def namespaceAllocations (gws : List NATGateway) (ns : String) : List NATAllocation :=
  (gws.filter fun gw => decide (gw.key.ns = ns)).flatMap fun gw => gw.status.allocations

def natAllocationsBySource (gws : List NATGateway) (ns : String) : Map String NATAllocation :=
  keyed NATAllocation.source (namespaceAllocations gws ns)

def compiledNATSource (ip : String) (a : NATAllocation) : CompiledNATSource where
  sourceIP := ip
  natIP := a.publicIP
  portMin := a.portMin
  portMax := a.portMax

def compileNAT (natBySource : Map String NATAllocation) (nic : NIC) : List CompiledNATSource :=
  nic.status.allocatedIPs.filterMap fun ip => (natBySource.lookup ip).map (compiledNATSource ip)

def NIC.Compiles (nic : NIC) : Prop :=
  nic.terminating = false /\ nic.Current /\ nic.status.allocatedIPs ≠ []

instance (nic : NIC) : Decidable nic.Compiles :=
  inferInstanceAs (Decidable (_ /\ _))

def reconcileNAT (gws : List NATGateway) (nic : NIC) : Option (List CompiledNATSource) :=
  if nic.Compiles then some (compileNAT (natAllocationsBySource gws nic.key.ns) nic) else none

def lastFor (gws : List NATGateway) (nic : NIC) : List NATAllocation := if nic.Compiles then
  nic.status.allocatedIPs.filterMap fun ip =>
    (namespaceAllocations gws nic.key.ns).reverse.find? fun a => a.source = ip
  else []

lemma keyed_lookup_last {K V : Type} [DecidableEq K] (key : V -> K) (vs : List V) (k : K) :
  (keyed key vs).lookup k = vs.reverse.find? fun v => key v = k := by
  induction vs using reverseRecOn with
  | nil => exact Finmap.lookup_empty k
  | append_singleton vs v ih =>
    unfold keyed at ih ⊢
    rw [foldl_append, foldl_cons, foldl_nil, lookup_insert_ite, reverse_append,
      reverse_singleton, singleton_append, find?_cons, ih]
    by_cases here : key v = k
    · simp [here]
    · simp [here, Ne.symm here]

lemma mem_reconcileNAT {gws : List NATGateway} {nic : NIC} {entry : CompiledNATSource} :
  (∃ nat ∈ reconcileNAT gws nic, entry ∈ nat) ↔ ∃ a ∈ lastFor gws nic, entry = compiledNATSource a.source a := by
  unfold reconcileNAT lastFor
  split
  · simp only [Option.mem_def, Option.some.injEq, exists_eq_left', compileNAT, mem_filterMap,
      natAllocationsBySource, keyed_lookup_last, Option.map_eq_some_iff]
    constructor
    · rintro ⟨ip, member, a, found, rfl⟩
      have source : a.source = ip := by simpa using find?_some found
      exact ⟨a, ⟨ip, member, found⟩, by rw [source]⟩
    · rintro ⟨a, ⟨ip, member, found⟩, rfl⟩
      have source : a.source = ip := by simpa using find?_some found
      exact ⟨ip, member, a, found, by rw [source]⟩
  · simp

section

def NATGateway.Serves (gw : NATGateway) (nic : NIC) : Prop :=
  gw.key.ns = nic.key.ns /\ gw.spec.vpcRef = nic.spec.vpcRef

instance (gw : NATGateway) (nic : NIC) : Decidable (gw.Serves nic) :=
  inferInstanceAs (Decidable (_ /\ _))

variable (gws : List NATGateway) (nics : List NIC) (ns : String)

def EntriesOwn : Prop := ∀ nic ∈ nics, nic.key.ns = ns -> ∀ nat ∈ reconcileNAT gws nic, ∀ entry ∈ nat,
  ∃ gw ∈ gws, gw.Serves nic /\ ∃ a ∈ gw.status.allocations, entry = compiledNATSource a.source a

def BlocksUnshared : Prop :=
  ∀ nic ∈ nics, ∀ nic' ∈ nics, nic.key.ns = ns -> nic'.key.ns = ns -> nic.key ≠ nic'.key ->
    ∀ nat ∈ reconcileNAT gws nic, ∀ nat' ∈ reconcileNAT gws nic', ∀ entry ∈ nat, ∀ entry' ∈ nat', entry.block ≠ entry'.block

structure FromPools (claims : Allocations) : Prop where
  distinct : ∀ gw ∈ gws, ∀ gw' ∈ gws, gw.key.ns = gw'.key.ns -> gw.key.name = gw'.key.name -> gw = gw'
  identified : ∀ gw ∈ gws, gw.uid ≠ ""
  owned : ∀ gw ∈ gws, gw.key.ns = ns -> ∀ x ∈ gw.status.allocations,
    ∃ a ∈ ZonedAddr.parse x.publicIP, Owns claims gw.consumer gw.spec.poolRef a
  tidy : ∀ gw ∈ gws, gw.key.ns = ns -> ∃ size, Tidy size gw.status.allocations

def LastOwn : Prop := ∀ nic ∈ nics, nic.key.ns = ns -> ∀ a ∈ lastFor gws nic,
  ∃ gw ∈ gws, gw.Serves nic /\ a ∈ gw.status.allocations

def PoolsUnshared : Prop :=
  ∀ nic ∈ nics, ∀ nic' ∈ nics, nic.key.ns = ns -> nic'.key.ns = ns -> nic.key ≠ nic'.key ->
    ∀ a ∈ lastFor gws nic, ∀ a' ∈ lastFor gws nic', ∀ gw ∈ gws, ∀ gw' ∈ gws,
      a ∈ gw.status.allocations -> a' ∈ gw'.status.allocations ->
      gw.spec.poolRef ≠ gw'.spec.poolRef -> a.block ≠ a'.block

instance : Decidable (LastOwn gws nics ns) :=
  inferInstanceAs (Decidable (∀ nic ∈ nics, _))

instance : Decidable (PoolsUnshared gws nics ns) :=
  inferInstanceAs (Decidable (∀ nic ∈ nics, _))

variable {gws nics ns}

lemma compiledNATSource_injective {a b : NATAllocation}
  (same : compiledNATSource a.source a = compiledNATSource b.source b) : a = b := by
  obtain ⟨s, ip, low, high⟩ := a
  obtain ⟨s', ip', low', high'⟩ := b
  simp_all [compiledNATSource]

lemma entriesOwn_iff : EntriesOwn gws nics ns ↔ LastOwn gws nics ns := by
  constructor
  · intro own nic listed here a last
    obtain ⟨nat, written, member⟩ := mem_reconcileNAT.mpr ⟨a, last, rfl⟩
    obtain ⟨gw, member, serves, b, held, same⟩ := own nic listed here nat written _ member
    exact ⟨gw, member, serves, compiledNATSource_injective same ▸ held⟩
  · intro own nic listed here nat written entry member
    obtain ⟨a, last, rfl⟩ := mem_reconcileNAT.mp ⟨nat, written, member⟩
    obtain ⟨gw, member, serves, held⟩ := own nic listed here a last
    exact ⟨gw, member, serves, a, held, rfl⟩

lemma blocksUnshared_iff : BlocksUnshared gws nics ns ↔
  ∀ nic ∈ nics, ∀ nic' ∈ nics, nic.key.ns = ns -> nic'.key.ns = ns -> nic.key ≠ nic'.key ->
    ∀ a ∈ lastFor gws nic, ∀ a' ∈ lastFor gws nic', a.block ≠ a'.block := by
  constructor
  · intro unshared nic listed nic' listed' here here' differ a last a' last'
    obtain ⟨nat, written, member⟩ := mem_reconcileNAT.mpr ⟨a, last, rfl⟩
    obtain ⟨nat', written', member'⟩ := mem_reconcileNAT.mpr ⟨a', last', rfl⟩
    exact unshared nic listed nic' listed' here here' differ nat written nat' written' _ member _ member'
  · intro unshared nic listed nic' listed' here here' differ nat written nat' written' entry member entry' member'
    obtain ⟨a, last, rfl⟩ := mem_reconcileNAT.mp ⟨nat, written, member⟩
    obtain ⟨a', last', rfl⟩ := mem_reconcileNAT.mp ⟨nat', written', member'⟩
    exact unshared nic listed nic' listed' here here' differ a last a' last'

lemma FromPools.single {moves : List ClaimMove} (pools : FromPools gws ns (claimRun moves).world)
  {gw gw' : NATGateway} (member : gw ∈ gws) (member' : gw' ∈ gws) (here : gw.key.ns = ns)
  (here' : gw'.key.ns = ns) (pool : gw.spec.poolRef = gw'.spec.poolRef) {a a' : NATAllocation}
  (held : a ∈ gw.status.allocations) (held' : a' ∈ gw'.status.allocations)
  (same : a.block = a'.block) : gw = gw' /\ a = a' := by
  obtain ⟨addr, read, owns⟩ := pools.owned gw member here a held
  obtain ⟨addr', read', owns'⟩ := pools.owned gw' member' here' a' held'
  have ip : a.publicIP = a'.publicIP := congrArg PortBlock.publicIP same
  rw [ip] at read
  obtain rfl := Option.mem_unique read read'
  rw [<- pool] at owns'
  have consumer : gw.consumer = gw'.consumer :=
    Owns.unique (pools.identified gw member) (pools.identified gw' member') owns owns'
  have name : gw.key.name = gw'.key.name := congrArg Consumer.name consumer
  obtain rfl := pools.distinct gw member gw' member' (here.trans here'.symm) name
  obtain ⟨size, tidy⟩ := pools.tidy gw member here
  exact ⟨rfl, tidy.single held held' same⟩

lemma mem_lastFor {nic : NIC} {a : NATAllocation} (last : a ∈ lastFor gws nic) :
  nic.Current /\ a.source ∈ nic.status.allocatedIPs := by
  unfold lastFor at last
  split at last
  next compiles =>
    obtain ⟨ip, member, found⟩ := mem_filterMap.mp last
    have source : a.source = ip := by simpa using find?_some found
    exact ⟨compiles.2.1, source ▸ member⟩
  · exact absurd last not_mem_nil

end

theorem nat_isolated_iff (events : List FabricEvent) (moves : List ClaimMove) (gws : List NATGateway) (ns : String) :
  let nics := (events.foldl step empty).nics.items
  let claims := (claimRun moves).world
  (EntriesOwn gws nics ns /\ (FromPools gws ns claims -> BlocksUnshared gws nics ns)) ↔
    LastOwn gws nics ns /\ (FromPools gws ns claims -> PoolsUnshared gws nics ns) := by
  intro nics claims
  have exclusive := run_exclusive events empty empty_exclusive
  rw [entriesOwn_iff, blocksUnshared_iff]
  refine and_congr_right fun own => imp_congr_right fun pools => ?_
  constructor
  · intro unshared nic listed nic' listed' here here' differ a last a' last' _ _ _ _ _ _ _
    exact unshared nic listed nic' listed' here here' differ a last a' last'
  · intro unshared nic listed nic' listed' here here' differ a last a' last' same
    obtain ⟨gw, member, serves, held⟩ := own nic listed here a last
    obtain ⟨gw', member', serves', held'⟩ := own nic' listed' here' a' last'
    by_cases pool : gw.spec.poolRef = gw'.spec.poolRef
    · obtain ⟨rfl, rfl⟩ := pools.single member member' (serves.1.trans here) (serves'.1.trans here') pool held held' same
      -- One gateway, so one VPC, in which the two NICs cannot both have the source.
      obtain ⟨current, source⟩ := mem_lastFor last
      obtain ⟨current', source'⟩ := mem_lastFor last'
      have vpc : SameVPC nic nic' := ⟨here.trans here'.symm, serves.2.symm.trans serves'.2⟩
      have apart := exclusive.apart nic listed nic' listed' differ vpc current current'
      exact apart.ips _ source _ source' rfl
    · exact unshared nic listed nic' listed' here here' differ a last a' last' gw member gw' member' held held' pool same

def twoVPCs (block : String) : List FabricEvent := [.putSubnet readySubnet,
  .putSubnet { readySubnet with
    key := tenantKey "other-subnet", vpcRef := "other", v4Prefix := some block },
  .create (tenantKey "a") "uid-a" (vpcSpec ""), .sync (tenantKey "a") readable,
  .create (tenantKey "b") "uid-b" { vpcSpec "" with vpcRef := "other" },
  .sync (tenantKey "b") readable]

def pooledGateway (name vpcRef : String) : NATGateway where
  key := tenantKey name
  uid := "uid-" ++ name
  spec := { vpcRef, publicIPs := [], portsPerSource := none, poolRef := "pool" }
  status := .empty

def gatewayClaims : List ClaimMove :=
  [.start 0 (.claim { growRequest with consumer := (pooledGateway "gw-a" "vpc").consumer }), .call 0 .normal, .call 0 .normal,
    .start 1 (.claim { growRequest with consumer := (pooledGateway "gw-b" "other").consumer }),
    .call 1 .normal, .call 1 .normal]

def pooledPass (gateway : NATGateway) (nics : List NIC) : GatewayPass where
  gateway := gateway
  reads :=
    { nics := some nics
      pool := .found smallPool
      pin := fun _ => .failed
      held := some (claimRun gatewayClaims).world.items
      grown := .failed }
  stored := true

def NATGateway.synced (natgw : NATGateway) (nics : List NIC) : NATGateway where
  key := natgw.key
  uid := natgw.uid
  spec := natgw.spec
  status := natgw.status.step (pooledPass natgw nics)

lemma synced_tidy (natgw : NATGateway) (nics : List NIC) (new : natgw.status = .empty)
  (steady : Steady 1024 .empty (pooledPass natgw nics)) :
  ∃ size, Tidy size (natgw.synced nics).status.allocations := by
  refine ⟨1024, ?_⟩
  simp only [NATGateway.synced, new]
  exact (step_tidy (Tidy.empty 1024) steady).1

def syncedGateways (block : String) : List NATGateway :=
  let nics := ((twoVPCs block).foldl step empty).nics.items
  [(pooledGateway "gw-a" "vpc").synced nics, (pooledGateway "gw-b" "other").synced nics]

def compiledTo (block name : String) : Option (List CompiledNATSource) :=
  (((twoVPCs block).foldl step empty).nics.find (tenantKey name)).bind (reconcileNAT (syncedGateways block))

theorem block_of_other_vpc : (syncedGateways "10.0.0.0/24").map (fun gw => (gw.spec.vpcRef, gw.status.allocations)) =
    [("vpc", [⟨"10.0.0.2", "198.51.100.1", 1024, 2047⟩]), ("other", [⟨"10.0.0.2", "198.51.100.2", 1024, 2047⟩])] /\
  compiledTo "10.0.0.0/24" "a" = some [⟨"10.0.0.2", "198.51.100.2", 1024, 2047⟩] /\
  compiledTo "10.0.0.0/24" "b" = some [⟨"10.0.0.2", "198.51.100.2", 1024, 2047⟩] := by
  decide +kernel

theorem separate_plans_isolated : let nics := ((twoVPCs "10.0.1.0/24").foldl step empty).nics.items
  let gws := syncedGateways "10.0.1.0/24"
  compiledTo "10.0.1.0/24" "a" = some [⟨"10.0.0.2", "198.51.100.1", 1024, 2047⟩] /\
    compiledTo "10.0.1.0/24" "b" = some [⟨"10.0.1.1", "198.51.100.2", 1024, 2047⟩] /\
    EntriesOwn gws nics "tenant" /\ BlocksUnshared gws nics "tenant" := by
  intro nics gws
  have compiled : compiledTo "10.0.1.0/24" "a" = some [⟨"10.0.0.2", "198.51.100.1", 1024, 2047⟩] /\
    compiledTo "10.0.1.0/24" "b" = some [⟨"10.0.1.1", "198.51.100.2", 1024, 2047⟩] /\
    LastOwn gws nics "tenant" /\ PoolsUnshared gws nics "tenant" := by decide +kernel
  have steady : Steady 1024 .empty (pooledPass (pooledGateway "gw-a" "vpc") nics) /\
    Steady 1024 .empty (pooledPass (pooledGateway "gw-b" "other") nics) /\
    ∀ gw ∈ gws, gw.key.ns = "tenant" -> ∀ x ∈ gw.status.allocations, ∃ a ∈ ZonedAddr.parse x.publicIP,
        Owns (claimRun gatewayClaims).world gw.consumer gw.spec.poolRef a := by decide +kernel
  have pools : FromPools gws "tenant" (claimRun gatewayClaims).world :=
    { distinct := by
        intro gw member gw' member' _ name
        rcases mem_pair.mp member with rfl | rfl <;>
          rcases mem_pair.mp member' with rfl | rfl
        · rfl
        · exact absurd name (by decide)
        · exact absurd name (by decide)
        · rfl
      identified := by
        intro gw member
        rcases mem_pair.mp member with rfl | rfl <;> decide
      owned := steady.2.2
      tidy := by
        intro gw member _
        rcases mem_pair.mp member with rfl | rfl
        · exact synced_tidy _ nics rfl steady.1
        · exact synced_tidy _ nics rfl steady.2.1 }
  have isolated := (nat_isolated_iff (twoVPCs "10.0.1.0/24") gatewayClaims gws "tenant").mpr
    ⟨compiled.2.2.1, fun _ => compiled.2.2.2⟩
  exact ⟨compiled.1, compiled.2.1, isolated.1, isolated.2 pools⟩

end Ectobase.Mesh
