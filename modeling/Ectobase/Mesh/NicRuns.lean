import Ectobase.Mesh.NicIpam
import Ectobase.Shared.Runs

namespace Ectobase.Mesh

open Shared List Objects

structure CompiledNIC where
  source : NamespacedName
  vpcRef : String
  vni : Int
  overlayIPs : List String
  mac : String
  deriving DecidableEq, Repr

structure Fabric where
  nics : Objects NIC.key NIC.uid
  subnets : Store Subnet.key
  compiled : Store CompiledNIC.source

def Fabric.empty : Fabric where
  nics := .empty
  subnets := .empty
  compiled := .empty

inductive FabricEvent where
  | create (key : NamespacedName) (uid : String) (spec : NICSpec)
  | edit (key : NamespacedName) (spec : NICSpec)
  | delete (key : NamespacedName)
  | purge (key : NamespacedName)
  | putSubnet (sub : Subnet)
  | removeSubnet (key : NamespacedName)
  | sync (key : NamespacedName) (reads : SyncReads)
  | compile (key : NamespacedName) (placed : Bool) (vni : Int)

def newNIC (key : NamespacedName) (uid : String) (spec : NICSpec) : NIC where
  key := key
  uid := uid
  generation := 1
  terminating := false
  finalizer := false
  spec := spec
  status := { state := .unset, observedGeneration := 0, allocatedIPs := [], allocatedMAC := "" }

abbrev NICUpdate := Objects.Update NIC.key NIC.uid

def editSpec (spec : NICSpec) : NICUpdate where
  apply nic := { nic with spec, generation := nic.generation + 1 }
  key_eq _ := rfl
  uid_eq _ := rfl

def markDeleted : NICUpdate where
  apply nic := { nic with terminating := true, generation := nic.generation + 1 }
  key_eq _ := rfl
  uid_eq _ := rfl

def setFinalizer (held : Bool) : NICUpdate where
  apply nic := { nic with finalizer := held }
  key_eq _ := rfl
  uid_eq _ := rfl

lemma sync_frame (nics : List NIC) (subnets : List Subnet) (reads : SyncReads) (nic : NIC) :
  ∃ status, sync nics subnets reads nic = { nic with status } := by
  rcases sync_cases nics subnets reads nic with same | ⟨state, -, failed⟩ | allocation
  · exact ⟨nic.status, same⟩
  · exact ⟨_, failed⟩
  · obtain ⟨sub, v4, v6, ips, mac, -, -, -, -, eq⟩ := allocation.found
    exact ⟨_, eq⟩

def syncStatus (nics : List NIC) (subnets : List Subnet) (reads : SyncReads) : NICUpdate where
  apply nic := if nic.terminating then nic else sync nics subnets reads nic
  key_eq nic := by
    obtain ⟨status, eq⟩ := sync_frame nics subnets reads nic
    split
    · rfl
    · rw [eq]
  uid_eq nic := by
    obtain ⟨status, eq⟩ := sync_frame nics subnets reads nic
    split
    · rfl
    · rw [eq]

def macOrSpec (nic : NIC) : String :=
  if nic.status.allocatedMAC ≠ "" then nic.status.allocatedMAC else nic.spec.mac

def compileNIC (nic : NIC) (vni : Int) : CompiledNIC where
  source := nic.key
  vpcRef := nic.spec.vpcRef
  vni := vni
  overlayIPs := nic.status.allocatedIPs
  mac := macOrSpec nic

def NIC.Current (nic : NIC) : Prop :=
  nic.status.state = .allocated /\ nic.status.observedGeneration = nic.generation

instance (nic : NIC) : Decidable nic.Current :=
  inferInstanceAs (Decidable (_ /\ _))

namespace Fabric

def compile (w : Fabric) (key : NamespacedName) (placed : Bool) (vni : Int) : Fabric :=
  match w.nics.find key with
  | none => w
  | some nic =>
    if nic.terminating then
      { w with
        compiled := w.compiled.remove key
        nics := w.nics.modify key (setFinalizer false) }
    -- Keep last good: a NIC that lost its allocation keeps what it was compiled into.
    else if ¬ nic.Current \/ nic.status.allocatedIPs = [] then w
    else
      { w with
        nics := w.nics.modify key (setFinalizer true)
        compiled := if placed then w.compiled.put (compileNIC nic vni) else w.compiled }

def step (w : Fabric) : FabricEvent -> Fabric
  | .create key uid spec => { w with nics := w.nics.create (newNIC key uid spec) }
  | .edit key spec => { w with nics := w.nics.modify key (editSpec spec) }
  | .delete key => { w with nics := w.nics.modify key markDeleted }
  | .purge key =>
    if (w.nics.find key).any fun nic => nic.terminating && !nic.finalizer then
      { w with nics := w.nics.remove key }
    else w
  | .putSubnet sub => { w with subnets := w.subnets.put sub }
  | .removeSubnet key => { w with subnets := w.subnets.remove key }
  | .sync key reads =>
    { w with nics := w.nics.modify key (syncStatus w.nics.items w.subnets.items reads) }
  | .compile key placed vni => w.compile key placed vni

end Fabric

variable {nic' nic : NIC}

variable {w : Fabric} {e : FabricEvent} {other : NIC} {subnets : List Subnet}

inductive Written (w : Fabric) (e : FabricEvent) (nic nic' : NIC) : Prop
  | quiet (spec : nic'.spec = nic.spec) (status : nic'.status = nic.status)
      (generation : nic'.generation = nic.generation)
  | newer (status : nic'.status = nic.status) (generation : nic'.generation = nic.generation + 1)
  | lost (state : nic'.status.state ≠ .allocated)
      (observed : nic'.status.observedGeneration = nic'.generation)
  | allocated (asked : ∃ reads, e = .sync nic'.key reads) (alive : nic.terminating = false)
      (allocation : Allocation w.nics.items w.subnets.items nic nic')

lemma syncStatus_written (w : Fabric) (reads : SyncReads) (nic : NIC) : Written w (.sync nic.key reads) nic
    ((syncStatus w.nics.items w.subnets.items reads).apply nic) := by
  have named := (syncStatus w.nics.items w.subnets.items reads).key_eq nic
  simp only [syncStatus] at named ⊢
  split
  · exact .quiet rfl rfl rfl
  next alive =>
    rw [if_neg alive] at named
    rcases sync_cases w.nics.items w.subnets.items reads nic with same | ⟨state, lost, failed⟩ | allocation
    · exact .quiet (by rw [same]) (by rw [same]) (by rw [same])
    · rw [failed]
      exact .lost lost rfl
    · exact .allocated ⟨reads, by rw [named]⟩ (by simpa using alive) allocation

lemma step_member (member : nic' ∈ (w.step e).nics.items) :
  nic' ∈ w.nics.items \/ (∃ key uid spec, nic' = newNIC key uid spec) \/
    ∃ nic, w.nics.find nic'.key = some nic /\ Written w e nic nic' /\
      ∀ k ≠ nic'.key, (w.step e).nics.find k = w.nics.find k := by
  have modified {key : NamespacedName} {change : NICUpdate} (member : nic' ∈ (w.nics.modify key change).items)
    (written : ∀ nic, nic.key = key -> Written w e nic (change.apply nic)) :
    nic' ∈ w.nics.items \/ (∃ key uid spec, nic' = newNIC key uid spec) \/
      ∃ nic, w.nics.find nic'.key = some nic /\ Written w e nic nic' /\
        ∀ k ≠ nic'.key, (w.nics.modify key change).find k = w.nics.find k := by
    rcases mem_modify member with ⟨listed, -⟩ | ⟨nic, found, rfl⟩
    · exact .inl listed
    · have named : (change.apply nic).key = key := by
        rw [change.key_eq, find_key found]
      rw [named]
      refine .inr (.inr ⟨nic, found, written nic (find_key found), fun k differ => ?_⟩)
      rw [find_modify, if_neg differ]
  cases e with
  | create key uid spec =>
    rcases mem_create member with listed | new
    · exact .inl listed
    · exact .inr (.inl ⟨key, uid, spec, new⟩)
  | edit | delete => exact modified member fun _ _ => .newer rfl rfl
  | purge key =>
    dsimp only [Fabric.step] at member
    split at member
    · exact .inl (mem_remove.mp member).1
    · exact .inl member
  | putSubnet | removeSubnet => exact .inl member
  | sync key reads => exact modified member fun nic named => named ▸ syncStatus_written w reads nic
  | compile key placed vni =>
    have held (holds : Bool) (nic : NIC) (_ : nic.key = key) :
      Written w (.compile key placed vni) nic ((setFinalizer holds).apply nic) :=
      .quiet rfl rfl rfl
    simp only [Fabric.step, Fabric.compile] at member ⊢
    split at member
    · exact .inl member
    · split_ifs at member ⊢
      · exact modified member (held false)
      · exact .inl member
      · exact modified member (held true)
      · exact modified member (held true)

section

def SameVPC (a b : NIC) : Prop := a.key.ns = b.key.ns /\ a.spec.vpcRef = b.spec.vpcRef

def ApartIPs (ips ips' : List String) : Prop :=
  ∀ ip ∈ ips, ∀ ip' ∈ ips', ZonedAddr.parse ip ≠ ZonedAddr.parse ip'

def ApartMACs (mac mac' : String) : Prop := parseMAC mac ≠ parseMAC mac'

lemma ApartIPs.symm {ips ips' : List String} (apart : ApartIPs ips ips') : ApartIPs ips' ips :=
  fun ip member ip' member' same => apart ip' member' ip member same.symm

structure Apart (a b : NIC) : Prop where
  ips : ApartIPs a.status.allocatedIPs b.status.allocatedIPs
  macs : ApartMACs a.status.allocatedMAC b.status.allocatedMAC

lemma Apart.symm {a b : NIC} (apart : Apart a b) : Apart b a := ⟨apart.ips.symm, apart.macs.symm⟩

structure Exclusive (nics : List NIC) : Prop where
  observed : ∀ nic ∈ nics, nic.status.observedGeneration <= nic.generation
  apart : ∀ a ∈ nics, ∀ b ∈ nics, a.key ≠ b.key -> SameVPC a b -> a.Current -> b.Current -> Apart a b

variable {nics : Objects NIC.key NIC.uid}

lemma mem_peers {self : NIC} (own : nics.find self.key = some self) (listed : other ∈ nics.items)
  (differ : other.key ≠ self.key) (vpc : SameVPC self other) :
  other ∈ peers nics.items self := by
  have uid : other.uid ≠ self.uid := fun same =>
    differ (nics.distinct other listed self (mem_of_find own) same)
  refine mem_filter.mpr ⟨listed, ?_⟩
  simp [NIC.isSelf, differ, uid, vpc.1, vpc.2]

lemma mem_usedAddrs {self : NIC} (peer : other ∈ peers nics.items self) {ip : String}
  (held : ip ∈ other.status.allocatedIPs) {a : ZonedAddr} (read : ZonedAddr.parse ip = some a) :
  a ∈ usedAddrs nics.items self :=
  mem_flatMap.mpr ⟨other, peer, mem_filterMap.mpr ⟨ip, held, read⟩⟩

lemma Allocation.spec {nics : List NIC} (allocation : Allocation nics subnets nic nic') :
  nic' = { nic with status := nic'.status } /\ nic'.Current /\ nic'.status.allocatedIPs ≠ [] /\
    (∃ sub, resolveSubnet subnets nic = some sub /\ ∀ ip ∈ nic'.status.allocatedIPs,
      ∃ a p, ip = a.text /\ sub.HasBlock p /\ Assignable p (usedAddrs nics nic) sub.reservedIPs a) /\
    nic'.status.allocatedMAC ∉ usedMACs nics nic /\
    ∃ hw : HardwareAddr, nic'.status.allocatedMAC = hw.text /\ parseMAC nic'.status.allocatedMAC = some hw := by
  obtain ⟨sub, v4, v6, ips, mac, resolved, -, blocks, allocated, rfl⟩ := allocation.found
  obtain ⟨nonempty, assignable, unused, canonical⟩ := allocate_spec blocks allocated
  refine ⟨rfl, ⟨rfl, rfl⟩, ?_, ⟨sub, resolved, fun ip member => ?_⟩, unused, canonical⟩
  · intro empty
    have perm := perm_insertionSort (· <= ·) ips
    rw [show ips.insertionSort (· <= ·) = [] from empty] at perm
    exact nonempty perm.nil_eq.symm
  · exact assignable ip ((mem_insertionSort _).mp member)

lemma Allocation.same_spec {nics : List NIC} (allocation : Allocation nics subnets nic nic') : nic'.spec = nic.spec := by
  rw [allocation.spec.1]

lemma Allocation.apart (allocation : Allocation nics.items subnets nic nic')
  (own : nics.find nic.key = some nic) (listed : other ∈ nics.items)
  (differ : other.key ≠ nic.key) (vpc : SameVPC nic other) : Apart nic' other := by
  obtain ⟨-, -, -, ⟨sub, -, assignable⟩, unused, hw, text, read⟩ := allocation.spec
  have peer := mem_peers own listed differ vpc
  constructor
  · intro ip member ip' member' same
    obtain ⟨a, p, rfl, -, free⟩ := assignable ip member
    rw [free.parse_text] at same
    exact free.unused (mem_usedAddrs peer member' same.symm)
  · intro same
    rw [read] at same
    refine unused (mem_filterMap.mpr ⟨other, peer, ?_⟩)
    rw [<- same, text]
    rfl

lemma Written.observed (written : Written w e nic nic') (before : nic.status.observedGeneration <= nic.generation) :
  nic'.status.observedGeneration <= nic'.generation := by
  cases written with
  | quiet spec status generation => rwa [status, generation]
  | newer status generation =>
    rw [status, generation]
    omega
  | lost state observed => exact observed.le
  | allocated asked alive allocation => exact allocation.spec.2.1.2.le

lemma Written.current (written : Written w e nic nic')
  (before : nic.status.observedGeneration <= nic.generation) (current : nic'.Current) :
  (nic.Current /\ nic'.spec = nic.spec /\ nic'.status = nic.status) \/
    (∃ reads, e = .sync nic'.key reads) /\ nic.terminating = false /\ Allocation w.nics.items w.subnets.items nic nic' := by
  cases written with
  | quiet spec status generation =>
    unfold NIC.Current at current
    rw [status, generation] at current
    exact .inl ⟨current, spec, status⟩
  | newer status generation =>
    have late := current.2
    rw [status, generation] at late
    omega
  | lost state => exact absurd current.1 state
  | allocated asked alive allocation => exact .inr ⟨asked, alive, allocation⟩

lemma step_exclusive (w : Fabric) (e : FabricEvent) (exclusive : Exclusive w.nics.items) :
  Exclusive (w.step e).nics.items := by
  -- Of two NICs at most one was written, and only an allocation can bring them together.
  have apart {a b nic : NIC} (memberB : b ∈ (w.step e).nics.items) (found : w.nics.find a.key = some nic)
    (written : Written w e nic a) (frame : ∀ k ≠ a.key, (w.step e).nics.find k = w.nics.find k)
    (differ : a.key ≠ b.key) (vpc : SameVPC a b) (currentA : a.Current) (currentB : b.Current) :
    Apart a b := by
    have listedB : b ∈ w.nics.items := by
      have same := find_of_mem memberB
      rw [frame b.key differ.symm] at same
      exact mem_of_find same
    have listed := mem_of_find found
    have named : nic.key = a.key := find_key found
    rcases written.current (exclusive.observed nic listed) currentA with ⟨current, spec, status⟩ | ⟨-, -, allocation⟩
    · have before := exclusive.apart nic listed b listedB (named ▸ differ) ⟨named ▸ vpc.1, spec ▸ vpc.2⟩ current currentB
      exact ⟨status ▸ before.ips, status ▸ before.macs⟩
    · exact allocation.apart (named ▸ found) listedB (named ▸ differ.symm) ⟨named ▸ vpc.1, allocation.same_spec ▸ vpc.2⟩
  constructor
  · intro nic member
    rcases step_member member with listed | ⟨key, uid, spec, rfl⟩ | ⟨old, found, written, -⟩
    · exact exclusive.observed nic listed
    · exact Int.one_nonneg
    · exact written.observed (exclusive.observed old (mem_of_find found))
  · intro a memberA b memberB differ vpc currentA currentB
    rcases step_member memberA with listedA | ⟨key, uid, spec, rfl⟩ | ⟨old, found, written, frame⟩
    · rcases step_member memberB with listedB | ⟨key, uid, spec, rfl⟩ | ⟨old, found, written, frame⟩
      · exact exclusive.apart a listedA b listedB differ vpc currentA currentB
      · cases currentB.1
      · exact (apart memberA found written frame differ.symm ⟨vpc.1.symm, vpc.2.symm⟩ currentB currentA).symm
    · cases currentA.1
    · exact apart memberB found written frame differ vpc currentA currentB

lemma run_exclusive (events : List FabricEvent) (w : Fabric) (exclusive : Exclusive w.nics.items) :
  Exclusive (events.foldl Fabric.step w).nics.items := by
  induction events generalizing w with
  | nil => exact exclusive
  | cons e rest ih => exact ih (w.step e) (step_exclusive w e exclusive)

lemma empty_exclusive : Exclusive Fabric.empty.nics.items where
  observed _ member := absurd member not_mem_nil
  apart _ member := absurd member not_mem_nil

end

theorem allocations_exclusive (events : List FabricEvent) : let w := events.foldl Fabric.step Fabric.empty
  (∀ a ∈ w.nics.items, ∀ b ∈ w.nics.items, a.key ≠ b.key -> SameVPC a b -> a.Current -> b.Current -> Apart a b) /\
  ∀ key reads nic nic', w.nics.find key = some nic -> (w.step (.sync key reads)).nics.find key = some nic' -> nic' ≠ nic ->
    nic'.status.state = .allocated ->
    ∃ sub, resolveSubnet w.subnets.items nic = some sub /\ ∀ ip ∈ nic'.status.allocatedIPs,
      ∃ a p, ZonedAddr.parse ip = some a /\ sub.HasBlock p /\ p.contains a.addr = true /\
        a ∉ reservedFor p /\ a ∉ parseAddrs sub.reservedIPs := by
  intro w
  refine ⟨(run_exclusive events Fabric.empty empty_exclusive).apart, ?_⟩
  intro key reads nic nic' found written changed allocated
  have after : nic' = (syncStatus w.nics.items w.subnets.items reads).apply nic := by
    have modified := find_modify w.nics key key (syncStatus w.nics.items w.subnets.items reads)
    rw [if_pos rfl, found, Option.map_some] at modified
    exact Option.mem_unique written modified
  simp only [syncStatus] at after
  split at after
  · exact absurd after changed
  · rcases sync_cases w.nics.items w.subnets.items reads nic with same | ⟨state, lost, failed⟩ | allocation
    · exact absurd (after.trans same) changed
    · rw [after.trans failed] at allocated
      exact absurd allocated lost
    · rw [<- after] at allocation
      obtain ⟨-, -, -, ⟨sub, resolved, assignable⟩, -⟩ := allocation.spec
      refine ⟨sub, resolved, fun ip member => ?_⟩
      obtain ⟨a, p, rfl, block, free⟩ := assignable ip member
      exact ⟨a, p, free.parse_text, block, free.inside, free.unreserved, free.unlisted⟩

def tenantKey (name : String) : NamespacedName where
  ns := "tenant"
  name := name

def vpcSpec (mac : String) : NICSpec where
  vpcRef := "vpc"
  subnetRef := ""
  ips := []
  mac := mac

def readySubnet : Subnet where
  key := tenantKey "subnet"
  vpcRef := "vpc"
  v4Prefix := some "10.0.0.0/24"
  v6Prefix := none
  reservedIPs := ["10.0.0.1"]
  state := "Ready"

def readable : SyncReads where
  subnet := true
  list := true

def twoNICs : List FabricEvent := [.putSubnet readySubnet,
  .create (tenantKey "a") "uid-a" (vpcSpec ""), .sync (tenantKey "a") readable,
  .create (tenantKey "b") "uid-b" (vpcSpec ""), .sync (tenantKey "b") readable]

def HoldsIP (w : Fabric) (name ip : String) : Prop :=
  ∃ nic ∈ w.nics.find (tenantKey name), nic.Current /\ nic.status.allocatedIPs = [ip] /\ nic.spec.vpcRef = "vpc"

instance (w : Fabric) (name ip : String) : Decidable (HoldsIP w name ip) :=
  match found : w.nics.find (tenantKey name) with
  | none => isFalse (by simp [HoldsIP, found])
  | some nic => decidable_of_iff (nic.Current /\ nic.status.allocatedIPs = [ip] /\
      nic.spec.vpcRef = "vpc") (by simp [HoldsIP, found])

theorem two_nics_apart : ∃ a b, (twoNICs.foldl Fabric.step Fabric.empty).nics.find (tenantKey "a") = some a /\
    (twoNICs.foldl Fabric.step Fabric.empty).nics.find (tenantKey "b") = some b /\
    a.status.allocatedIPs = ["10.0.0.2"] /\ b.status.allocatedIPs = ["10.0.0.3"] /\ Apart a b := by
  have holds : HoldsIP (twoNICs.foldl Fabric.step Fabric.empty) "a" "10.0.0.2" /\
    HoldsIP (twoNICs.foldl Fabric.step Fabric.empty) "b" "10.0.0.3" := by decide +kernel
  have apart := (allocations_exclusive twoNICs).1
  generalize twoNICs.foldl Fabric.step Fabric.empty = w at holds apart ⊢
  obtain ⟨⟨a, foundA, currentA, ipA, vpcA⟩, b, foundB, currentB, ipB, vpcB⟩ := holds
  have keyA := find_key foundA
  have keyB := find_key foundB
  refine ⟨a, b, foundA, foundB, ipA, ipB, apart a (mem_of_find foundA) b
    (mem_of_find foundB) ?_ ⟨?_, vpcA.trans vpcB.symm⟩ currentA currentB⟩
  · rw [keyA, keyB]
    decide
  · rw [keyA, keyB]
    rfl

end Ectobase.Mesh
