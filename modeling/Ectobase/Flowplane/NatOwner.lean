import Ectobase.Flowplane.Ports

namespace Ectobase.Flowplane

structure Octets (n : Nat) where
  bytes : Vector UInt8 n

def Octets.toNats {n : Nat} (a : Octets n) : List Nat := a.bytes.toList.map UInt8.toNat

lemma Octets.toNats_injective {n : Nat} : Function.Injective (Octets.toNats (n := n)) := by
  rintro ⟨a⟩ ⟨b⟩ same
  have bytes : a.toList = b.toList := List.map_injective_iff.mpr (fun _ _ => UInt8.toNat_inj.mp) same
  rw [Vector.toList_inj.mp bytes]

instance {n : Nat} : LinearOrder (Octets n) := LinearOrder.lift' Octets.toNats Octets.toNats_injective

structure NeighborNatBlock (A : Type) where
  underlay : Octets 16
  natIp : A
  vni : UInt32
  portMin : UInt16
  portMax : UInt16
  deriving DecidableEq

abbrev NeighborNatEntry := NeighborNatBlock (Octets 4)
abbrev NeighborNat6Entry := NeighborNatBlock (Octets 16)

structure NatOwner where
  underlay : Octets 16
  vni : UInt32
  portMin : UInt16
  portMax : UInt16
  deriving DecidableEq

structure NatOwnerKeyData (A : Type) where
  natIp : A
  port : UInt8 × UInt8
  deriving DecidableEq

abbrev NatOwnerKey := NatOwnerKeyData (Octets 4)
abbrev NatOwnerKey6 := NatOwnerKeyData (Octets 16)

def natOwnersMax : Nat := 65536

inductive NeighborNatError where
  | emptyRange
  | overlap
  | full (needed max : Nat)
  | map (cause : String)
  deriving DecidableEq, Repr

def NeighborNatError.display : NeighborNatError -> String
  | .emptyRange => "neighbor NAT block has an empty port range"
  | .overlap => "ALREADY_EXISTS: neighbor NAT block overlaps an existing block on this nat_ip"
  | .full needed max =>
    s!"neighbor NAT table full: {needed} prefixes do not fit; the table holds at most {max} per family"
  | .map cause => cause

-- One trie entry per aligned port prefix.
def ownerPrefixes {A : Type} (addrBits : Nat) (b : NeighborNatBlock A) : List (Nat × NatOwnerKeyData A × NatOwner) :=
  if b.portMax <= b.portMin then []
  else
    let owner : NatOwner := ⟨b.underlay, b.vni, b.portMin, b.portMax⟩
    (portPrefixes b.portMin (b.portMax - 1)).map fun (port, bits) =>
      (addrBits + bits, ⟨b.natIp, toBeBytes port⟩, owner)

def natOwnerAddrBits4 : Nat := 32
def natOwnerAddrBits6 : Nat := 128

def ownerPrefixes4 (b : NeighborNatEntry) : List (Nat × NatOwnerKey × NatOwner) :=
  ownerPrefixes natOwnerAddrBits4 b

def ownerPrefixes6 (b : NeighborNat6Entry) : List (Nat × NatOwnerKey6 × NatOwner) :=
  ownerPrefixes natOwnerAddrBits6 b

end Ectobase.Flowplane
