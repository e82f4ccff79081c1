import Ectobase.Mesh.Allocator
import Ectobase.Mesh.IPAlloc

namespace Ectobase.Mesh

open Shared

structure NATAllocation where
  source : String
  publicIP : String
  portMin : Int32
  portMax : Int32
  deriving DecidableEq, Repr

def NATAllocation.block (al : NATAllocation) : PortBlock where
  publicIP := al.publicIP
  portMin := al.portMin
  portMax := al.portMax

def natAllocation (source : String) (b : PortBlock) : NATAllocation where
  source := source
  publicIP := b.publicIP
  portMin := b.portMin
  portMax := b.portMax

def assignSources : Allocator -> List String -> Option (List NATAllocation × Nat)
  | _, [] => some ([], 0)
  | a, source :: rest => do
    let (answer, a) <- a.assign source
    let (out, unblocked) <- assignSources a rest
    match answer with
    | none => some (out, unblocked + 1)
    | some b => some (natAllocation source b :: out, unblocked)

def preassignAll (a : Allocator) (allocations : List NATAllocation) : Option Allocator :=
  allocations.foldlM (fun a al => a.preassign al.source al.block) a

def assignBlocks (allocations : List NATAllocation) (addrs : List String) (size : Int32)
  (sources : List String) : Option (List NATAllocation × Nat) :=
  (preassignAll (Allocator.new addrs size) allocations).bind fun a => assignSources a sources

structure NATGatewaySpec where
  vpcRef : String
  publicIPs : List String
  portsPerSource : Option Int32
  poolRef : String
  deriving DecidableEq, Repr

structure NATGatewayStatus where
  allocations : List NATAllocation
  state : String
  deriving DecidableEq, Repr

structure NATGateway where
  key : NamespacedName
  uid : String
  spec : NATGatewaySpec
  status : NATGatewayStatus
  deriving DecidableEq, Repr

def NATGateway.consumer (natgw : NATGateway) : Consumer where
  kind := "NATGateway"
  name := natgw.key.name
  uid := natgw.uid

inductive PoolRead where
  | failed
  | notFound
  | found (pool : IPPool)

structure GatewayReads where
  nics : Option (List NIC)
  pool : PoolRead
  pin : ZonedAddr -> ClaimResult
  held : Option (List IPAllocation)
  grown : ClaimResult

def NATGateway.sources (natgw : NATGateway) (nics : List NIC) : List String :=
  ((nics.filter fun nic => decide (nic.key.ns = natgw.key.ns) && decide (nic.spec.vpcRef = natgw.spec.vpcRef)).flatMap
      fun nic => nic.status.allocatedIPs).insertionSort (· <= ·)

def defaultPortsPerSource : Int32 := 1024

def NATGateway.blockSize (natgw : NATGateway) : Int32 :=
  natgw.spec.portsPerSource.getD defaultPortsPerSource

inductive Addresses where
  | failed
  | stopped (state : String)
  | ready (pooled : Bool) (addrs : List String)
  deriving DecidableEq, Repr

def claimPins (pin : ZonedAddr -> ClaimResult) : List String -> Option Addresses
  | [] => none
  | ip :: rest =>
    match ZonedAddr.parse ip with
    | none => some (.stopped "Invalid")
    | some a =>
      match pin a with
      | .notAllocatable => some (.stopped "Invalid")
      | .failed => some .failed
      | .exhausted => some (.stopped "Exhausted")
      | .claimed _ => claimPins pin rest

def NATGateway.publicAddresses (natgw : NATGateway) (reads : GatewayReads) : Addresses :=
  if natgw.spec.poolRef = "" then .ready false natgw.spec.publicIPs
  else
    match reads.pool with
    | .failed => .failed
    | .notFound => .stopped "Invalid"
    | .found pool =>
      if pool.poolType ≠ .public_ then .stopped "Invalid"
      else if pool.state ≠ "Ready" then .stopped "Pending"
      else
        match claimPins reads.pin natgw.spec.publicIPs with
        | some ended => ended
        | none =>
          match reads.held with
          | none => .failed
          | some items =>
            .ready true ((consumerAddresses pool natgw.consumer items).map ZonedAddr.text)

def insertSorted : List String -> ZonedAddr -> List String
  | [], a => [a.text]
  | ip :: rest, a =>
    match ZonedAddr.parse ip with
    | none => a.text :: ip :: rest
    | some b => if a.less b then a.text :: ip :: rest else ip :: insertSorted rest a

inductive PassEnd where
  | failed
  | stopped (state : String)
  | written (status : NATGatewayStatus)
  deriving DecidableEq, Repr

def PassEnd.ofTable : Option (List NATAllocation × Nat) -> PassEnd
  | none => .failed
  | some (allocations, unblocked) =>
    .written { allocations, state := if 0 < unblocked then "Exhausted" else "Ready" }

def NATGateway.sync (natgw : NATGateway) (reads : GatewayReads) : PassEnd := match reads.nics with
  | none => .failed
  | some nics =>
    let sources := natgw.sources nics
    match natgw.publicAddresses reads with
    | .failed => .failed
    | .stopped state => .stopped state
    | .ready pooled addrs =>
      let table (addrs : List String) :=
        assignBlocks natgw.status.allocations addrs natgw.blockSize sources
      match table addrs with
      | some (_, _ + 1) =>
        -- Some source has no block: a gateway with a pool takes one more address.
        if pooled then
          match reads.grown with
          | .notAllocatable => .stopped "Invalid"
          | .failed => .failed
          | .claimed extra => .ofTable (table (insertSorted addrs extra))
          | .exhausted => .ofTable (table addrs)
        else .ofTable (table addrs)
      | ended => .ofTable ended

end Ectobase.Mesh
