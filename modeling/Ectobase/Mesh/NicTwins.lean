import Ectobase.Mesh.NicStability

namespace Ectobase.Mesh

open Shared Store Fabric

def Backed (w : Fabric) (c : CompiledNIC) : Prop :=
  ∃ m ∈ w.nics.find c.source, m.spec.vpcRef = c.vpcRef /\ ∀ ip ∈ c.overlayIPs, ip ∈ m.status.allocatedIPs

instance (w : Fabric) (c : CompiledNIC) : Decidable (Backed w c) :=
  inferInstanceAs (Decidable (∃ m, m ∈ w.nics.find c.source /\ _))

def TwinsBacked (w : Fabric) : FabricEvent -> Prop
  | .sync key _ => ∀ nic ∈ w.nics.find key, nic.terminating = false -> nic.settled = false ->
      ∀ c ∈ w.compiled.items, c.source ≠ key -> c.source.ns = key.ns -> c.vpcRef = nic.spec.vpcRef -> Backed w c
  | _ => True

instance (w : Fabric) : (e : FabricEvent) -> Decidable (TwinsBacked w e)
  | .sync .. => by unfold TwinsBacked; infer_instance
  | .create .. | .edit .. | .delete _ | .purge _ | .putSubnet _ | .removeSubnet _ | .compile .. => .isTrue trivial

structure TwinsApart (w : Fabric) : Prop where
  exclusive : Exclusive w.nics.items
  nics : ∀ c ∈ w.compiled.items, ∀ n ∈ w.nics.items, c.source ≠ n.key -> c.source.ns = n.key.ns ->
    c.vpcRef = n.spec.vpcRef -> n.Current -> ApartIPs n.status.allocatedIPs c.overlayIPs
  twins : ∀ c ∈ w.compiled.items, ∀ d ∈ w.compiled.items, c.source ≠ d.source ->
    c.source.ns = d.source.ns -> c.vpcRef = d.vpcRef -> ApartIPs c.overlayIPs d.overlayIPs

section

variable {w : Fabric}

lemma step_compiled {e : FabricEvent} {c : CompiledNIC} (member : c ∈ (w.step e).compiled.items) :
  c ∈ w.compiled.items \/ ∃ nic placed vni, e = .compile c.source placed vni /\
    w.nics.find c.source = some nic /\ nic.Current /\ c = compileNIC nic vni /\ ∀ d ∈ (w.step e).compiled.items, d.source ≠ c.source ->
      d ∈ w.compiled.items := by
  cases e with
  | compile key placed vni =>
    simp only [step, compile] at member ⊢
    split at member
    · exact .inl member
    next nic found =>
      split_ifs at member ⊢ with terminating gated
      · exact .inl (mem_remove.mp member).1
      · exact .inl member
      · rcases mem_put.mp member with rfl | ⟨kept, -⟩
        · have named : nic.key = key := Objects.find_key found
          have source : (compileNIC nic vni).source = key := named
          refine .inr ⟨nic, placed, vni, by rw [source], by rw [source, found], not_not.mp (not_or.mp gated).1, rfl, ?_⟩
          intro d listed differ
          rcases mem_put.mp listed with rfl | ⟨kept, -⟩
          · exact absurd rfl differ
          · exact kept
        · exact .inl kept
      · exact .inl member
  | purge key =>
    dsimp only [step] at member
    split at member <;> exact .inl member
  | create | edit | delete | putSubnet | removeSubnet | sync => exact .inl member

lemma Allocation.apart_backed {nic nic' : NIC} {c : CompiledNIC}
  (allocation : Allocation w.nics.items w.subnets.items nic nic')
  (own : w.nics.find nic.key = some nic) (backed : Backed w c) (differ : c.source ≠ nic.key)
  (ns : c.source.ns = nic.key.ns) (vpc : c.vpcRef = nic.spec.vpcRef) :
  ApartIPs nic'.status.allocatedIPs c.overlayIPs := by
  obtain ⟨m, found, vpc', listed⟩ := backed
  have named : m.key = c.source := Objects.find_key found
  have apart := allocation.apart own (Objects.mem_of_find found) (named ▸ differ) ⟨by rw [named, ns], (vpc'.trans vpc).symm⟩
  exact fun ip member ip' member' => apart.ips ip member ip' (listed ip' member')

lemma step_twins {e : FabricEvent} (apart : TwinsApart w) (backed : TwinsBacked w e) : TwinsApart (w.step e) where
  exclusive := step_exclusive w e apart.exclusive
  nics c memberC n memberN differ ns vpc current := by
    -- Before the step the NIC already had these addresses, unless this is a Sync that allocates.
    have before : (∃ old ∈ w.nics.items, old.key = n.key /\ old.spec.vpcRef = n.spec.vpcRef /\
      old.Current /\ n.status = old.status) \/
      ∃ old reads, w.nics.find n.key = some old /\ old.terminating = false /\
        e = .sync n.key reads /\ Allocation w.nics.items w.subnets.items old n := by
      rcases step_member memberN with listed | ⟨key, uid, spec, rfl⟩ | ⟨old, found, written, -⟩
      · exact .inl ⟨n, listed, rfl, rfl, current, rfl⟩
      · cases current.1
      · have listed := Objects.mem_of_find found
        rcases written.current (apart.exclusive.observed old listed) current with
          ⟨before, spec, status⟩ | ⟨⟨reads, asked⟩, alive, allocation⟩
        · exact .inl ⟨old, listed, Objects.find_key found, by rw [spec], before, status⟩
        · exact .inr ⟨old, reads, found, alive, asked, allocation⟩
    rcases step_compiled memberC with listed | ⟨nic, placed, vni, asked, found, currentC, rfl, -⟩
    · rcases before with ⟨old, listedN, named, vpc', current', status⟩ | ⟨old, reads, found, alive, rfl, allocation⟩
      · rw [status]
        exact apart.nics c listed old listedN (named ▸ differ) (named ▸ ns) (vpc' ▸ vpc) current'
      · have named : old.key = n.key := Objects.find_key found
        rw [allocation.same_spec] at vpc
        have held := backed old found alive allocation.open_ c listed differ ns vpc
        exact allocation.apart_backed (named ▸ found) held (named ▸ differ) (named ▸ ns) vpc
    · rcases before with ⟨old, listedN, named, vpc', current', status⟩ | ⟨old, reads, -, -, other, -⟩
      · rw [status]
        exact (apart.exclusive.apart old listedN nic (Objects.mem_of_find found)
          (named ▸ differ.symm) ⟨named ▸ ns.symm, vpc'.trans vpc.symm⟩ current' currentC).ips
      · cases asked.symm.trans other
  twins c memberC d memberD differ ns vpc := by
    rcases step_compiled memberC with listed | ⟨nic, placed, vni, -, found, current, rfl, others⟩
    · rcases step_compiled memberD with listed' | ⟨nic, placed, vni, -, found, current, rfl, others⟩
      · exact apart.twins c listed d listed' differ ns vpc
      · exact (apart.nics c listed nic (Objects.mem_of_find found) differ ns vpc current).symm
    · exact apart.nics d (others d memberD differ.symm) nic (Objects.mem_of_find found) differ.symm ns.symm vpc.symm current

end

theorem compiled_apart (events : List FabricEvent) (along : Along step TwinsBacked empty events) (n : Nat) :
  let w := (events.take n).foldl step empty
  ∀ c ∈ w.compiled.items, ∀ d ∈ w.compiled.items, c.source ≠ d.source ->
    c.source.ns = d.source.ns -> c.vpcRef = d.vpcRef -> c.vni = d.vni ->
    ApartIPs c.overlayIPs d.overlayIPs := by
  have start : TwinsApart empty :=
    { exclusive := empty_exclusive
      nics := fun _ member => absurd member List.not_mem_nil
      twins := fun _ member => absurd member List.not_mem_nil }
  have apart : TwinsApart ((events.take n).foldl step empty) :=
    (along.take n).invariant (fun _ _ => step_twins) start
  intro w c memberC d memberD differ ns vpc _
  exact apart.twins c memberC d memberD differ ns vpc

def CompiledWith (w : Fabric) (name ip : String) : Prop :=
  ∃ c ∈ w.compiled.find (tenantKey name), c.overlayIPs = [ip] /\ c.vpcRef = "vpc" /\ c.vni = 7

instance (w : Fabric) (name ip : String) : Decidable (CompiledWith w name ip) :=
  inferInstanceAs (Decidable (∃ c, c ∈ w.compiled.find (tenantKey name) /\ _))

def compileBoth : List FabricEvent := [.compile (tenantKey "a") true 7, .compile (tenantKey "b") true 7]

theorem shared_after_mac_mistake :
  let w := (settledNICs ++ compileBoth ++ macMistake.take 4 ++ compileBoth).foldl step empty
  CompiledWith w "a" "10.0.0.2" /\ CompiledWith w "b" "10.0.0.2" := by
  decide +kernel

def compiledPair : List FabricEvent := [.putSubnet readySubnet,
  .create (tenantKey "a") "uid-a" (vpcSpec ""), .sync (tenantKey "a") readable,
  .compile (tenantKey "a") true 7,
  .create (tenantKey "b") "uid-b" (vpcSpec ""), .sync (tenantKey "b") readable,
  .compile (tenantKey "b") true 7]

theorem compiled_pair_apart : ∃ a b, (compiledPair.foldl step empty).compiled.find (tenantKey "a") = some a /\
    (compiledPair.foldl step empty).compiled.find (tenantKey "b") = some b /\
    ApartIPs a.overlayIPs b.overlayIPs := by
  have along : Along step TwinsBacked empty compiledPair :=
    ⟨by decide +kernel, by decide +kernel, by decide +kernel, by decide +kernel,
      by decide +kernel, by decide +kernel, by decide +kernel, trivial⟩
  have compiled : CompiledWith (compiledPair.foldl step empty) "a" "10.0.0.2" /\
    CompiledWith (compiledPair.foldl step empty) "b" "10.0.0.3" := by decide +kernel
  have apart := compiled_apart compiledPair along 7
  rw [show compiledPair.take 7 = compiledPair from rfl] at apart
  generalize compiledPair.foldl step empty = w at compiled apart ⊢
  obtain ⟨⟨a, foundA, -, vpcA, vniA⟩, b, foundB, -, vpcB, vniB⟩ := compiled
  have keyA : a.source = tenantKey "a" := find_key foundA
  have keyB : b.source = tenantKey "b" := find_key foundB
  refine ⟨a, b, foundA, foundB, apart a (mem_of_find foundA) b (mem_of_find foundB) ?_ ?_
    (vpcA.trans vpcB.symm) (vniA.trans vniB.symm)⟩
  · rw [keyA, keyB]
    decide
  · rw [keyA, keyB]
    rfl

end Ectobase.Mesh
