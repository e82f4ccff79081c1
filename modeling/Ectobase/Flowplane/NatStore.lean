import Ectobase.Flowplane.NatOwner
import Ectobase.Shared.OrderedMap
import Mathlib.Data.Prod.Lex

namespace Ectobase.Flowplane

open Shared

section

variable {A : Type} [LinearOrder A]

structure BlockKey (A : Type) where
  natIp : A
  portMin : UInt16

def BlockKey.toLexKey (k : BlockKey A) : Lex (A × Nat) := toLex (k.natIp, k.portMin.toNat)

omit [LinearOrder A] in
lemma BlockKey.toLexKey_injective : Function.Injective (BlockKey.toLexKey (A := A)) := by
  rintro ⟨ip, port⟩ ⟨ip', port'⟩ same
  obtain ⟨ips, ports⟩ := Prod.mk.inj (toLex_inj.mp same)
  cases ips
  cases UInt16.toNat_inj.mp ports
  rfl

instance : LinearOrder (BlockKey A) := LinearOrder.lift' BlockKey.toLexKey BlockKey.toLexKey_injective

def NeighborNatBlock.key (b : NeighborNatBlock A) : BlockKey A := ⟨b.natIp, b.portMin⟩

abbrev OwnerTrie (A : Type) := Map (Nat × NatOwnerKeyData A) NatOwner

structure NatStore (A : Type) where
  blocks : Map (BlockKey A) (NeighborNatBlock A)
  owners : OwnerTrie A
  ownerCount : Nat

def NatStore.empty : NatStore A := ⟨∅, ∅, 0⟩

-- A failed write leaves the map unchanged; all succeed once the script has run out.
abbrev Faults := List (Option String)

abbrev OwnerEntry (A : Type) := Nat × NatOwnerKeyData A × NatOwner

def OwnerEntry.path (e : OwnerEntry A) : Nat × NatOwnerKeyData A := (e.1, e.2.1)

def ownerUpsert (owners : OwnerTrie A) (faults : Faults) (e : OwnerEntry A) : Option String × OwnerTrie A × Faults :=
  match faults with
  | some cause :: rest => (some cause, owners, rest)
  | faults => (none, owners.insert (OwnerEntry.path e) e.2.2, faults.tail)

def ownerRemove (owners : OwnerTrie A) (faults : Faults) (e : OwnerEntry A) : Option String × OwnerTrie A × Faults :=
  match faults with
  | some cause :: rest => (some cause, owners, rest)
  | faults => (none, owners.erase (OwnerEntry.path e), faults.tail)

def removeEach (owners : OwnerTrie A) (faults : Faults) : List (OwnerEntry A) -> Option String × OwnerTrie A × Faults
  | [] => (none, owners, faults)
  | e :: rest =>
    let (failed, owners, faults) := ownerRemove owners faults e
    let (later, owners, faults) := removeEach owners faults rest
    (failed.or later, owners, faults)

def upsertEach (owners : OwnerTrie A) (faults : Faults) (written : List (OwnerEntry A)) :
  List (OwnerEntry A) -> Option (String × List (OwnerEntry A)) × OwnerTrie A × Faults
  | [] => (none, owners, faults)
  | e :: rest =>
    match ownerUpsert owners faults e with
    | (none, owners, faults) => upsertEach owners faults (written ++ [e]) rest
    | (some cause, owners, faults) => (some (cause, written), owners, faults)

abbrev Outcome (S R : Type) := Except NeighborNatError R × S × Faults

variable (addrBits : Nat)

def NatStore.list (s : NatStore A) (owners : OwnerTrie A) (b : NeighborNatBlock A) : NatStore A :=
  ⟨s.blocks.insert b.key b, owners, s.ownerCount + (ownerPrefixes addrBits b).length⟩

def NatStore.storeBlock (s : NatStore A) (faults : Faults) (b : NeighborNatBlock A) : Outcome (NatStore A) Unit :=
  let entries := ownerPrefixes addrBits b
  if natOwnersMax < s.ownerCount + entries.length then
    (.error (.full entries.length natOwnersMax), s, faults)
  else
    match upsertEach s.owners faults [] entries with
    | (none, owners, faults) => (.ok (), s.list addrBits owners b, faults)
    | (some (cause, written), owners, faults) =>
      match removeEach owners faults written with
      -- stranded: the block is listed for what it left in the trie
      | (some _, owners, faults) => (.error (.map cause), s.list addrBits owners b, faults)
      | (none, owners, faults) => (.error (.map cause), { s with owners }, faults)

def NatStore.overlaps (s : NatStore A) (natIp : A) (lo hi : UInt16) : Bool :=
  (match lastUpTo s.blocks ⟨natIp, lo⟩ with
    | some (k, b) => k.natIp = natIp /\ lo < b.portMax
    | none => false) ||
  (match firstFrom s.blocks ⟨natIp, lo⟩ with
    | some (k, _) => k.natIp = natIp /\ k.portMin < hi
    | none => false)

def NatStore.add (s : NatStore A) (faults : Faults) (b : NeighborNatBlock A) : Outcome (NatStore A) Unit :=
  if b.portMax <= b.portMin then (.error .emptyRange, s, faults)
  else if s.overlaps b.natIp b.portMin b.portMax then (.error .overlap, s, faults)
  else s.storeBlock addrBits faults b

def NatStore.upsert (s : NatStore A) (faults : Faults) (b : NeighborNatBlock A) : Outcome (NatStore A) Unit :=
  if b.portMax <= b.portMin then (.error .emptyRange, s, faults)
  else if (s.blocks.lookup b.key).map (·.portMax) = some b.portMax then
    match upsertEach s.owners faults [] (ownerPrefixes addrBits b) with
    | (none, owners, faults) =>
      (.ok (), { s with owners, blocks := s.blocks.insert b.key b }, faults)
    | (some (cause, _), owners, faults) => (.error (.map cause), { s with owners }, faults)
  else s.add addrBits faults b

def NatStore.del (s : NatStore A) (faults : Faults) (vni : UInt32) (natIp : A)
  (portMin portMax : UInt16) : Outcome (NatStore A) Bool :=
  match s.blocks.lookup ⟨natIp, portMin⟩ with
  | none => (.ok false, s, faults)
  | some b =>
    -- the key names a start; the caller has to name the whole block
    if b.vni ≠ vni \/ b.portMax ≠ portMax then (.ok false, s, faults)
    else
      let entries := ownerPrefixes addrBits b
      match removeEach s.owners faults entries with
      | (some cause, owners, faults) => (.error (.map cause), { s with owners }, faults)
      | (none, owners, faults) =>
        (.ok true, ⟨s.blocks.erase ⟨natIp, portMin⟩, owners, s.ownerCount - entries.length⟩, faults)

def rangeKey (r : A × UInt16 × UInt16) : Lex (A × Lex (Nat × Nat)) :=
  toLex (r.1, toLex (r.2.1.toNat, r.2.2.toNat))

def checkBlockSet (blocks : List (A × UInt16 × UInt16 × Nat)) : Except NeighborNatError Unit :=
  if blocks.any fun (_, lo, hi, _) => hi <= lo then .error .emptyRange
  else
    let needed := (blocks.map fun (_, _, _, n) => n).sum
    if natOwnersMax < needed then .error (.full needed natOwnersMax)
    else
      let ranges := (blocks.map fun (ip, lo, hi, _) => (ip, lo, hi)).insertionSort
        fun r r' => rangeKey r <= rangeKey r'
      -- sorted by start, any overlap shows up between neighbours
      if (ranges.zip ranges.tail).any fun (w0, w1) => w0.1 = w1.1 /\ w1.2.1 < w0.2.2 then
        .error .overlap
      else .ok ()

def prefixCount (lo hi : UInt16) : Nat := if hi <= lo then 0 else portPrefixCount lo (hi - 1)

def checkBlocks (blocks : List (NeighborNatBlock A)) : Except NeighborNatError Unit :=
  checkBlockSet (blocks.map fun b => (b.natIp, b.portMin, b.portMax, prefixCount b.portMin b.portMax))

def blockId (b : NeighborNatBlock A) : UInt32 × A × UInt16 × UInt16 × Octets 16 :=
  (b.vni, b.natIp, b.portMin, b.portMax, b.underlay)

def NatStore.dropStale (s : NatStore A) (faults : Faults) (removed : Nat) :
  List (NeighborNatBlock A) -> Outcome (NatStore A) Nat
  | [] => (.ok removed, s, faults)
  | b :: rest =>
    match s.del addrBits faults b.vni b.natIp b.portMin b.portMax with
    | (.error e, s, faults) => (.error e, s, faults)
    | (.ok _, s, faults) => NatStore.dropStale s faults (removed + 1) rest

def NatStore.storeMissing (s : NatStore A) (faults : Faults)
  (have_ : List (UInt32 × A × UInt16 × UInt16 × Octets 16)) (added kept : Nat) :
  List (NeighborNatBlock A) -> Outcome (NatStore A) (Nat × Nat)
  | [] => (.ok (added, kept), s, faults)
  | b :: rest =>
    if blockId b ∈ have_ then NatStore.storeMissing s faults have_ added (kept + 1) rest
    else
      match s.storeBlock addrBits faults b with
      | (.error e, s, faults) => (.error e, s, faults)
      | (.ok _, s, faults) => NatStore.storeMissing s faults have_ (added + 1) kept rest

def NatStore.stale (s : NatStore A) (wanted : List (NeighborNatBlock A)) : List (NeighborNatBlock A) :=
  (values s.blocks).filter fun b => blockId b ∉ wanted.map blockId

def NatStore.ids (s : NatStore A) : List (UInt32 × A × UInt16 × UInt16 × Octets 16) :=
  (values s.blocks).map blockId

end

structure NeighborNats where
  v4 : NatStore (Octets 4)
  v6 : NatStore (Octets 16)

structure ReplaceCounts where
  added : Nat
  kept : Nat
  removed : Nat
  deriving DecidableEq, Repr

def replaceNeighborNats (s : NeighborNats) (faults : Faults) (v4 : List NeighborNatEntry)
  (v6 : List NeighborNat6Entry) : Outcome NeighborNats ReplaceCounts :=
  match checkBlocks v4, checkBlocks v6 with
  | .error e, _ => (.error e, s, faults)
  | .ok _, .error e => (.error e, s, faults)
  | .ok _, .ok _ =>
    match s.v4.dropStale natOwnerAddrBits4 faults 0 (s.v4.stale v4) with
    | (.error e, s4, faults) => (.error e, { s with v4 := s4 }, faults)
    | (.ok removed, s4, faults) =>
      match s.v6.dropStale natOwnerAddrBits6 faults removed (s.v6.stale v6) with
      | (.error e, s6, faults) => (.error e, ⟨s4, s6⟩, faults)
      | (.ok removed, s6, faults) =>
        match s4.storeMissing natOwnerAddrBits4 faults s4.ids 0 0 v4 with
        | (.error e, s4, faults) => (.error e, ⟨s4, s6⟩, faults)
        | (.ok (added, kept), s4, faults) =>
          match s6.storeMissing natOwnerAddrBits6 faults s6.ids added kept v6 with
          | (.error e, s6, faults) => (.error e, ⟨s4, s6⟩, faults)
          | (.ok (added, kept), s6, faults) => (.ok ⟨added, kept, removed⟩, ⟨s4, s6⟩, faults)

end Ectobase.Flowplane
