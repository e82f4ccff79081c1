import Ectobase.Flowplane.NatBindings
import Ectobase.Mesh.NatBlocks
import Mathlib.Combinatorics.Enumerative.DoubleCounting

namespace Ectobase.Mesh

open Shared List Option Allocator NATGatewayStatus

def isV4Text (text : String) : Option Bool := (parseAddr text.toList).map Addr.isV4

def NATAllocation.SameFamily (x : NATAllocation) : Prop :=
  isV4Text x.source = isV4Text x.publicIP

instance (x : NATAllocation) : Decidable x.SameFamily := inferInstanceAs (Decidable (_ = _))

variable {ips sources : List String} {size : Int32} {table out : List NATAllocation} {n : Nat}

lemma LaidOut.listed {b : PortBlock} (laid : LaidOut ips size b) : b.publicIP ∈ ips := by
  obtain ⟨idx, -, block⟩ := laid
  simp only [blockAt] at block
  split at block
  · cases block
  · obtain ⟨ip, here, rfl⟩ := map_eq_some_iff.mp block
    exact mem_of_getElem? here

lemma assignSources_listed {a : Allocator} (pool : a.Over ips size) (assigned : assignSources a sources = some (out, n)) :
  ∀ x ∈ out, x.publicIP ∈ ips := by
  induction sources generalizing a out n with
  | nil => cases assigned; simp
  | cons source rest ih =>
    simp only [assignSources, bind_eq_bind, bind_eq_some_iff] at assigned
    obtain ⟨⟨answer, a'⟩, first, ⟨out', n'⟩, later, same⟩ := assigned
    obtain ⟨pool, laid⟩ := pool.assign first
    cases answer with
    | none => cases same; exact ih pool later
    | some b =>
      cases same
      exact forall_mem_cons.mpr ⟨(laid b rfl).listed, ih pool later⟩

lemma assignBlocks_listed (result : assignBlocks table ips size sources = some (out, n)) :
  ∀ x ∈ out, x.publicIP ∈ ips := by
  obtain ⟨a, seeded, assigned⟩ := bind_eq_some_iff.mp result
  clear result
  have pool := new_over ips size
  generalize new ips size = start at seeded pool
  induction table generalizing start with
  | nil =>
    cases seeded
    exact assignSources_listed pool assigned
  | cons x table ih =>
    obtain ⟨next, first, later⟩ := bind_eq_some_iff.mp seeded
    exact ih next later (pool.preassign first)

section

variable {a : Allocator} (filled : Filled ips size a) (distinct : ips.Nodup)

include filled distinct

lemma Filled.used_card : a.used.card <= a.assigned.keys.card := by
  apply Finset.card_le_card_of_forall_subsingleton
    fun idx source => ∃ b, a.assigned.lookup source = some b /\ Slot ips size idx b
  · intro idx used
    obtain ⟨source, b, found, slot⟩ := filled.owner used
    exact ⟨source, (mem_keys_iff_lookup source a.assigned).mpr ⟨b, found⟩, b, found, slot⟩
  · rintro source - idx ⟨-, b, found, slot⟩ idx' ⟨-, b', found', slot'⟩
    obtain rfl := mem_unique found found'
    exact slot.index_unique distinct slot'

lemma Filled.lowestFree_of_room (room : a.assigned.keys.card < a.total.toNatClampNeg) : ∃ idx, a.lowestFree = some idx := by
  by_contra none
  have taken : (range a.total.toNatClampNeg).toFinset.image Int32.ofNat ⊆ a.used := by
    intro idx member
    obtain ⟨i, inside, rfl⟩ := Finset.mem_image.mp member
    have all := find?_eq_none.mp (eq_none_iff_forall_ne_some.mpr (not_exists.mp none))
      (Int32.ofNat i) (mem_map_of_mem (mem_toFinset.mp inside))
    simpa using all
  have count := (Finset.card_le_card taken).trans (filled.used_card distinct)
  rw [Finset.card_image_of_injOn, toFinset_card_of_nodup nodup_range, length_range] at count
  · omega
  · -- The indices are below the total, an int32, so none wraps.
    intro i inside j inside' same
    have bound := a.total.toInt_lt
    simp only [coe_toFinset, mem_range, Set.mem_ofPred_eq, Int32.toNatClampNeg] at inside inside'
    have value := congrArg Int32.toInt same
    rw [Int32.toInt_ofNat_of_lt (by omega), Int32.toInt_ofNat_of_lt (by omega)] at value
    omega

lemma Filled.assignSources_of_room (counted : Counted ips size) {present : Finset String}
  (room : present.card <= (Allocator.new ips size).total.toNatClampNeg)
  (within : a.assigned.keys ⊆ present) (all : ∀ s ∈ sources, s ∈ present) :
  ∃ out, Mesh.assignSources a sources = some (out, 0) /\ out.map NATAllocation.source = sources := by
  induction sources generalizing a with
  | nil => exact ⟨[], rfl, rfl⟩
  | cons source rest ih =>
    obtain ⟨answer, next, assigned, filled', after, sticky⟩ := filled.assign distinct counted source
    have here := all source mem_cons_self
    obtain ⟨b, rfl⟩ : ∃ b, answer = some b := by
      cases found : a.assigned.lookup source with
      | some b => exact ⟨b, sticky b found⟩
      | none =>
        -- The source itself is one that holds nothing yet.
        have fewer : a.assigned.keys.card < present.card := by
          refine Finset.card_lt_card ⟨within, fun full => ?_⟩
          obtain ⟨b, held⟩ := (mem_keys_iff_lookup source a.assigned).mp (full here)
          rw [found] at held
          cases held
        have total : a.total = (Allocator.new ips size).total := filled.total_eq
        obtain ⟨idx, free⟩ := filled.lowestFree_of_room distinct (by rw [total]; omega)
        have some_ : ¬ a.total = 0 := fun zero => by simp [Allocator.lowestFree, zero] at free
        simp only [Allocator.assign, found, if_neg some_, free, map_eq_some_iff] at assigned
        obtain ⟨⟨b, _⟩, _, same⟩ := assigned
        exact ⟨b, (Prod.mk.inj same).1.symm⟩
    have within' : next.assigned.keys ⊆ present := by
      intro s key
      obtain ⟨b', found⟩ := (mem_keys_iff_lookup s next.assigned).mp key
      rw [after] at found
      split at found
      next same => exact same ▸ here
      · exact within ((mem_keys_iff_lookup s a.assigned).mpr ⟨b', found⟩)
    obtain ⟨out, rest_, sources_⟩ := ih filled' within' fun s member =>
      all s (mem_cons_of_mem _ member)
    refine ⟨natAllocation source b :: out, ?_, by rw [map_cons, sources_]; rfl⟩
    simp only [Mesh.assignSources, assigned, rest_, bind_eq_bind, bind_some]

end

lemma Filled.keys_card (filled : Filled ips size a) (counted : Counted ips size) :
  a.assigned.keys.card <= (Allocator.new ips size).total.toNatClampNeg := by
  rw [← Finset.card_range (Allocator.new ips size).total.toNatClampNeg]
  apply Finset.card_le_card_of_forall_subsingleton
    fun source (n : Nat) => ∃ b idx, a.assigned.lookup source = some b /\ Slot ips size idx b /\ idx.toInt = (n : Int)
  · intro source key
    obtain ⟨b, found⟩ := (mem_keys_iff_lookup source a.assigned).mp key
    obtain ⟨idx, -, slot⟩ := filled.held found
    have low := slot.nonneg
    have high := slot.below
    rw [← total_toInt counted] at high
    refine ⟨idx.toInt.toNat, ?_, b, idx, found, slot, by omega⟩
    rw [Finset.mem_range, Int32.toNatClampNeg]
    omega
  · rintro n - source ⟨-, b, idx, found, slot, at_⟩ source' ⟨-, b', idx', found', slot', at'⟩
    obtain rfl : idx = idx' := Int32.toInt_inj.mp (at_.trans at'.symm)
    obtain rfl := slot.unique slot'
    exact filled.single found found'

lemma assignSources_all {a : Allocator} (assigned : assignSources a sources = some (out, 0)) :
  out.map NATAllocation.source = sources := by
  induction sources generalizing a out with
  | nil => cases assigned; rfl
  | cons source rest ih =>
    simp only [assignSources, bind_eq_bind, bind_eq_some_iff] at assigned
    obtain ⟨⟨answer, a'⟩, -, ⟨out', n'⟩, later, same⟩ := assigned
    cases answer with
    | none => cases same
    | some b =>
      cases same
      rw [map_cons, ih later]
      rfl

lemma Filled.assignSources_iff (filled : Filled ips size a) (distinct : ips.Nodup) (counted : Counted ips size)
  (sources : List String) : (∃ out, Mesh.assignSources a sources = some (out, 0)) ↔
    (a.assigned.keys ∪ sources.toFinset).card <= (Allocator.new ips size).total.toNatClampNeg := by
  constructor
  · rintro ⟨out, assigned⟩
    obtain ⟨out', n, a', assigned', filled', grows, lookups, -⟩ := filled.assignSources distinct counted sources
    obtain ⟨rfl, rfl⟩ := Prod.mk.inj (mem_unique assigned assigned')
    refine (Finset.card_le_card (Finset.union_subset ?_ ?_)).trans (filled'.keys_card counted)
    · intro s key
      obtain ⟨b, found⟩ := (mem_keys_iff_lookup s a.assigned).mp key
      exact (mem_keys_iff_lookup s a'.assigned).mpr ⟨b, grows found⟩
    · intro s present
      rw [List.mem_toFinset, ← assignSources_all assigned, List.mem_map] at present
      obtain ⟨x, member, rfl⟩ := present
      exact (mem_keys_iff_lookup _ a'.assigned).mpr ⟨_, lookups x member⟩
  · intro room
    obtain ⟨out, assigned, -⟩ := filled.assignSources_of_room distinct counted room Finset.subset_union_left
      fun s member => Finset.mem_union_right _ (List.mem_toFinset.mpr member)
    exact ⟨out, assigned⟩

-- The current sources, and those of entries that still name a block of the addresses.
def claimants (table : List NATAllocation) (addrs : List String) (size : Int32) (sources : List String) : Finset String :=
  ((table.filter (·.Names addrs size)).map NATAllocation.source ++ sources).toFinset

lemma Sound.assignBlocks (sound : Sound table) (distinct : ips.Nodup) (counted : Counted ips size) (sources : List String) :
  (∃ out n, assignBlocks table ips size sources = some (out, n) /\ Sound out) /\
    ((∃ out, assignBlocks table ips size sources = some (out, 0)) ↔
      (claimants table ips size sources).card <= (Allocator.new ips size).total.toNatClampNeg) := by
  obtain ⟨a, seeded, filled, from_, seeds⟩ := sound.preassignAll distinct counted
  have keys : claimants table ips size sources = a.assigned.keys ∪ sources.toFinset := by
    rw [claimants, toFinset_append]
    congr 1
    ext s
    simp only [List.mem_toFinset, List.mem_map, mem_filter, decide_eq_true_eq, mem_keys_iff_lookup]
    constructor
    · rintro ⟨x, ⟨member, names⟩, rfl⟩
      exact ⟨_, seeds x member names⟩
    · rintro ⟨b, found⟩
      obtain ⟨x, member, names, source, -⟩ := from_ s b found
      exact ⟨x, ⟨member, names⟩, source⟩
  simp only [Mesh.assignBlocks, seeded, bind_some]
  refine ⟨?_, by rw [keys]; exact filled.assignSources_iff distinct counted sources⟩
  obtain ⟨out, n, a', assigned, filled', -, lookups, -⟩ := filled.assignSources distinct counted sources
  refine ⟨out, n, assigned, fun x memberX y memberY => ⟨fun same => ?_, ?_⟩⟩
  · have lookup := lookups x memberX
    rw [same, lookups y memberY] at lookup
    rw [NATAllocation.ext_block same (some.inj lookup).symm]
    exact ⟨rfl, rfl⟩
  · rintro ⟨ip, start⟩
    have ends {z : NATAllocation} (member : z ∈ out) : z.block = z.blockOf size := by
      obtain ⟨idx, -, slot⟩ := filled'.held (lookups z member)
      obtain ⟨-, q, -, -, -, end_⟩ := slot.placed
      rw [NATAllocation.blockOf, ← show z.portMax = z.portMin + size - 1 from end_]
      rfl
    have same : x.block = y.block := by
      rw [ends memberX, ends memberY, NATAllocation.blockOf, NATAllocation.blockOf, ip, start]
    exact filled'.single (same ▸ lookups x memberX) (lookups y memberY)

-- The pass has the current table, and lists no address twice nor more than can be counted.
structure Countable (status : NATGatewayStatus) (pass : GatewayPass) : Prop where
  current : pass.gateway.status.allocations = status.allocations
  pool : ∀ addrs ∈ pass.layouts, addrs.Nodup /\ Counted addrs pass.gateway.blockSize

instance (status : NATGatewayStatus) (pass : GatewayPass) : Decidable (Countable status pass) :=
  decidable_of_iff (_ /\ _) ⟨fun ⟨current, pool⟩ => ⟨current, pool⟩, fun met => ⟨met.current, met.pool⟩⟩

lemma step_sound {status : NATGatewayStatus} {pass : GatewayPass} (sound : Sound status.allocations)
  (met : Countable status pass) : Sound (status.step pass).allocations := by
  unfold step
  split
  · split
    · exact sound
    · exact sound
    next written ended =>
      obtain ⟨nics, -, addrs, listed, n, assigned⟩ := sync_written ended
      obtain ⟨distinct, counted⟩ := met.pool addrs listed
      rw [met.current] at assigned
      obtain ⟨out, n', laid, sound'⟩ := (sound.assignBlocks distinct counted (pass.gateway.sources nics)).1
      obtain ⟨rfl, -⟩ := Prod.mk.inj (mem_unique assigned laid)
      exact sound'
  · exact sound

lemma sync_ready_iff {pass : GatewayPass} {nics : List NIC} {pooled : Bool} {addrs : List String}
  (read : nics ∈ pass.reads.nics) (ready : pass.gateway.publicAddresses pass.reads = .ready pooled addrs) (out : List NATAllocation) :
  (∀ grown, pass.gateway.sync { pass.reads with grown } = .written ⟨out, "Ready"⟩) ↔
    assignBlocks pass.gateway.status.allocations addrs pass.gateway.blockSize (pass.gateway.sources nics) = some (out, 0) := by
  constructor
  · intro written
    have failed := written .failed
    have same : pass.gateway.publicAddresses { pass.reads with grown := .failed } = .ready pooled addrs := ready
    simp only [NATGateway.sync, same] at failed
    rw [mem_def.mp read] at failed
    simp only at failed
    generalize assignBlocks pass.gateway.status.allocations addrs pass.gateway.blockSize (pass.gateway.sources nics) = result
      at failed ⊢
    rcases result with _ | ⟨table, n | n⟩
    · cases failed
    · rw [(NATGatewayStatus.mk.inj (PassEnd.written.inj failed)).1]
    · cases pooled with
      | false => exact absurd (NATGatewayStatus.mk.inj (PassEnd.written.inj failed)).2 (by simp)
      | true => cases failed
  · intro table grown
    have same : pass.gateway.publicAddresses { pass.reads with grown } = .ready pooled addrs := ready
    simp only [NATGateway.sync, same]
    rw [mem_def.mp read]
    simp only [table]
    rfl

-- In every run, whatever the sources, addresses and block sizes of its passes.
theorem pool_grows_only_on_need (passes : List GatewayPass) (along : Along step Countable .empty passes) (n : Nat) :
  ∀ pass ∈ passes[n]?, ∀ nics ∈ pass.reads.nics, ∀ pooled addrs,
    pass.gateway.publicAddresses pass.reads = .ready pooled addrs ->
    let sources := pass.gateway.sources nics
    let stored := ((passes.take n).foldl step .empty).allocations
    (∃ out, (∀ grown, pass.gateway.sync { pass.reads with grown } = .written ⟨out, "Ready"⟩) /\
        out.map NATAllocation.source = sources) ↔
      (claimants stored addrs pass.gateway.blockSize sources).card <=
        (new addrs pass.gateway.blockSize).total.toNatClampNeg := by
  intro pass here nics read pooled addrs ready sources stored
  have sound : Sound stored := Along.invariant (fun _ _ => step_sound) (fun _ member => absurd member not_mem_nil) (along.take n)
  have met := along.at_step here
  obtain ⟨distinct, counted⟩ := met.pool addrs (by
    simp only [GatewayPass.layouts, ready]
    exact mem_cons_self)
  rw [← (sound.assignBlocks distinct counted sources).2]
  simp only [sync_ready_iff read ready, met.current]
  constructor
  · rintro ⟨out, assigned, -⟩
    exact ⟨out, assigned⟩
  · rintro ⟨out, assigned⟩
    obtain ⟨a, -, assigned'⟩ := bind_eq_some_iff.mp assigned
    exact ⟨out, assigned, assignSources_all assigned'⟩

-- A gateway that holds one address of a pool, where a second one is free.
def growablePass (size : Int32) (allocations : List NATAllocation) (nics : List NIC) : GatewayPass where
  gateway :=
    { plainGateway [] size allocations with
      spec := { vpcRef := "vpc", publicIPs := [], portsPerSource := some size, poolRef := "pool" } }
  reads :=
    { nics := some nics
      pool := .found { name := "pool", poolType := .public_, v4Prefix := some "198.51.100.0/30", v6Prefix := none,
                       reservedIPs := [], state := "Ready" }
      pin := fun _ => .failed
      held := some [{ name := "pool-198-51-100-1", poolLabel := "pool", consumerLabel := some "uid-gw", poolRef := "pool",
                      address := "198.51.100.1", controller := some { kind := "NATGateway", name := "gw", uid := "uid-gw" } }]
      grown := .claimed { addr := { isV4 := true, as16 := mappedHead ++ [198, 51, 100, 2] }, zone := [] } }
  stored := true

-- The first source leaves, then the block size changes as the next one leaves.
def lastPass : GatewayPass :=
  growablePass 16128 [⟨"10.0.0.3", "198.51.100.1", 33280, 65535⟩] [plainNIC "c" "10.0.0.4", plainNIC "d" "10.0.0.5"]

def changingPasses : List GatewayPass :=
  [growablePass 32256 [] [plainNIC "a" "10.0.0.2"],
    growablePass 32256 [⟨"10.0.0.2", "198.51.100.1", 1024, 33279⟩] [plainNIC "b" "10.0.0.3"], lastPass]

theorem pool_kept_as_sources_change :
  ∃ out, (∀ grown, lastPass.gateway.sync { lastPass.reads with grown } = .written ⟨out, "Ready"⟩) /\
    out.map NATAllocation.source = ["10.0.0.4", "10.0.0.5"] :=
  (pool_grows_only_on_need changingPasses (by decide +kernel) 2 lastPass rfl _ rfl true ["198.51.100.1"]
    (by decide +kernel)).mpr (by decide +kernel)

-- The block is still taken by the entry of the source that is gone.
theorem vanished_source_holds_block :
  let pass := fun table nic => plainPass (plainGateway ["198.51.100.1"] 64512 table) [nic]
  let first := empty.step (pass [] (plainNIC "a" "10.0.0.2"))
  let second := first.step (pass first.allocations (plainNIC "b" "10.0.0.3"))
  first.allocations = [⟨"10.0.0.2", "198.51.100.1", 1024, 65535⟩] /\ second.allocations = [] /\
    1 <= (new ["198.51.100.1"] 64512).total.toNatClampNeg := by
  decide +kernel

end Ectobase.Mesh
