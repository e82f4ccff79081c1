import Ectobase.Shared.MachineInt
import Ectobase.Shared.Maps

namespace Ectobase.Mesh

open Shared List Option

def firstUsablePort : Int32 := 1024
def lastUsablePort : Int32 := 65535

structure PortBlock where
  publicIP : String
  portMin : Int32
  portMax : Int32
  deriving DecidableEq, Repr

structure Allocator where
  ips : List String
  size : Int32
  blocksPerIP : Int32
  used : Finset Int32
  assigned : Map String PortBlock

def Allocator.new (ips : List String) (size : Int32) : Allocator where
  ips := ips
  size := size
  blocksPerIP := if 0 < size then (lastUsablePort - firstUsablePort + 1) / size else 0
  used := ∅
  assigned := ∅

def Allocator.total (a : Allocator) : Int32 := Int32.ofNat a.ips.length * a.blocksPerIP

def Allocator.blockToIndex (a : Allocator) (b : PortBlock) : Option Int32 :=
  if a.blocksPerIP = 0 \/ a.size = 0 then none
  else
    match a.ips.findIdx? (· == b.publicIP) with
    | none => none
    | some i =>
      let ipIdx := Int32.ofNat i
      let off := b.portMin - firstUsablePort
      if ipIdx < 0 then none
      else if off < 0 \/ off % a.size ≠ 0 then none
      else if a.blocksPerIP <= off / a.size then none
      else some (ipIdx * a.blocksPerIP + off / a.size)

variable {a a' : Allocator} {b : PortBlock} {idx : Int32}

lemma Allocator.blockToIndex_eq {i : Nat} {off : Int32}
  (sized : ¬ (a.blocksPerIP = 0 \/ a.size = 0)) (found : a.ips.findIdx? (· == b.publicIP) = some i)
  (indexed : ¬ Int32.ofNat i < 0) (offset : b.portMin - firstUsablePort = off)
  (nonneg : ¬ off < 0) (aligned : off % a.size = 0) (inside : ¬ a.blocksPerIP <= off / a.size) :
  a.blockToIndex b = some (Int32.ofNat i * a.blocksPerIP + off / a.size) := by
  have placed : ¬ (off < 0 \/ off % a.size ≠ 0) := by
    rintro (negative | unaligned)
    · exact nonneg negative
    · exact unaligned aligned
  simp only [Allocator.blockToIndex, found, offset, if_neg sized, if_neg indexed, if_neg placed, if_neg inside]

lemma Allocator.blockToIndex_some (sized : 0 < a.size.toInt) (index : a.blockToIndex b = some idx) :
  ∃ i q, i < a.ips.length /\ 0 <= q.toInt /\ q.toInt < a.blocksPerIP.toInt /\ idx = Int32.ofNat i * a.blocksPerIP + q := by
  simp only [Allocator.blockToIndex] at index
  split at index
  · cases index
  · split at index
    · cases index
    next i found =>
      split at index
      · cases index
      · split at index
        · cases index
        next placed =>
          split at index
          · cases index
          next inside =>
            cases index
            have offset : 0 <= (b.portMin - firstUsablePort).toInt := by
              rw [not_or, Int32.lt_iff_toInt_lt, Int32.toInt_zero] at placed
              omega
            refine ⟨i, _, (findIdx?_eq_some_iff_findIdx_eq.mp found).1, ?_, ?_, rfl⟩
            · rw [toInt_div_of_pos sized]
              exact Int.tdiv_nonneg offset (Int.le_of_lt sized)
            · rw [Int32.le_iff_toInt_le] at inside
              omega

def Allocator.blockAt (a : Allocator) (idx : Int32) : Option PortBlock :=
  let portMin := firstUsablePort + idx % a.blocksPerIP * a.size
  if idx / a.blocksPerIP < 0 then none
  else (a.ips[(idx / a.blocksPerIP).toNatClampNeg]?).map fun ip =>
    ⟨ip, portMin, portMin + a.size - 1⟩

def Allocator.take (a : Allocator) (source : String) (idx : Int32) : Option (PortBlock × Allocator) :=
  (a.blockAt idx).map fun b =>
    (b, { a with used := insert idx a.used, assigned := a.assigned.insert source b })

def Allocator.preassign (a : Allocator) (source : String) (b : PortBlock) : Option Allocator :=
  match a.blockToIndex b with
  | none => some a
  | some idx => if idx ∈ a.used then some a else (a.take source idx).map Prod.snd

def Allocator.lowestFree (a : Allocator) : Option Int32 :=
  ((range a.total.toNatClampNeg).map Int32.ofNat).find? (· ∉ a.used)

def Allocator.assign (a : Allocator) (source : String) : Option (Option PortBlock × Allocator) :=
  match a.assigned.lookup source with
  | some b => some (some b, a)
  | none =>
    if a.total = 0 then some (none, a)
    else
      match a.lowestFree with
      | none => some (none, a)
      | some idx => (a.take source idx).map fun (b, a) => (some b, a)

inductive AllocOp where
  | preassign (source : String) (b : PortBlock)
  | assign (source : String)

def Allocator.apply (a : Allocator) : AllocOp -> Option Allocator
  | .preassign source b => a.preassign source b
  | .assign source => (a.assign source).map Prod.snd

def Allocator.run (a : Allocator) (ops : List AllocOp) : Option Allocator :=
  ops.foldlM Allocator.apply a

def CanReturn (ips : List String) (size : Int32) (b : PortBlock) : Prop :=
  ∃ ops source a a', (Allocator.new ips size).run ops = some a /\ a.assign source = some (some b, a')

def LaidOut (ips : List String) (size : Int32) (b : PortBlock) : Prop :=
  ∃ idx, (0 <= idx.toInt \/ ∃ seed, (Allocator.new ips size).blockToIndex seed = some idx) /\
    (Allocator.new ips size).blockAt idx = some b

structure Allocator.Over (ips : List String) (size : Int32) (a : Allocator) : Prop where
  sameIPs : a.ips = ips
  sameSize : a.size = size
  sameCount : a.blocksPerIP = (Allocator.new ips size).blocksPerIP
  laidOut : ∀ {source b}, a.assigned.lookup source = some b -> LaidOut ips size b

variable {ips : List String} {size : Int32}

lemma Allocator.new_over (ips : List String) (size : Int32) : (Allocator.new ips size).Over ips size where
  sameIPs := rfl
  sameSize := rfl
  sameCount := rfl
  laidOut held := by simp [Allocator.new] at held

lemma Allocator.Over.blockAt_eq (pool : a.Over ips size) (idx : Int32) :
  a.blockAt idx = (Allocator.new ips size).blockAt idx := by
  simp only [Allocator.blockAt, pool.sameIPs, pool.sameSize, pool.sameCount]
  rfl

lemma Allocator.Over.blockToIndex_eq (pool : a.Over ips size) (b : PortBlock) :
  a.blockToIndex b = (Allocator.new ips size).blockToIndex b := by
  simp only [Allocator.blockToIndex, pool.sameIPs, pool.sameSize, pool.sameCount]
  rfl

lemma Allocator.Over.total_eq (pool : a.Over ips size) : a.total = (Allocator.new ips size).total := by
  rw [Allocator.total, pool.sameIPs, pool.sameCount]
  rfl

lemma Allocator.Over.take (pool : a.Over ips size) {source : String}
  (reached : 0 <= idx.toInt \/ ∃ seed, (Allocator.new ips size).blockToIndex seed = some idx)
  (taken : a.take source idx = some (b, a')) : a'.Over ips size /\ LaidOut ips size b := by
  obtain ⟨b', block, same⟩ := map_eq_some_iff.mp taken
  cases same
  have laid : LaidOut ips size b := ⟨idx, reached, by rw [<- pool.blockAt_eq, block]⟩
  refine ⟨⟨pool.sameIPs, pool.sameSize, pool.sameCount, ?_⟩, laid⟩
  intro source' b' held
  rw [lookup_insert_ite] at held
  split at held
  · cases held; exact laid
  · exact pool.laidOut held

lemma Allocator.lowestFree_nonneg (found : a.lowestFree = some idx) : 0 <= idx.toInt := by
  have member := mem_of_find?_eq_some found
  obtain ⟨i, inside, rfl⟩ := mem_map.mp member
  have below : i < a.total.toInt.toNat := mem_range.mp inside
  have bound := a.total.toInt_lt
  rw [Int32.toInt_ofNat_of_lt (by omega)]
  omega

lemma Allocator.Over.assign (pool : a.Over ips size) {source : String} {answer : Option PortBlock}
  (assigned : a.assign source = some (answer, a')) :
  a'.Over ips size /\ ∀ b, answer = some b -> LaidOut ips size b := by
  unfold Allocator.assign at assigned
  split at assigned
  next b held =>
    cases assigned
    refine ⟨pool, ?_⟩
    rintro _ ⟨⟩
    exact pool.laidOut held
  · split at assigned
    · cases assigned; exact ⟨pool, by simp⟩
    · split at assigned
      · cases assigned; exact ⟨pool, by simp⟩
      next idx free =>
        obtain ⟨⟨b, after⟩, taken, same⟩ := map_eq_some_iff.mp assigned
        cases same
        obtain ⟨kept, laid⟩ := pool.take (.inl (Allocator.lowestFree_nonneg free)) taken
        exact ⟨kept, by rintro _ ⟨⟩; exact laid⟩

lemma Allocator.Over.preassign (pool : a.Over ips size) {source : String}
  (seeded : a.preassign source b = some a') : a'.Over ips size := by
  unfold Allocator.preassign at seeded
  split at seeded
  · cases seeded; exact pool
  next idx index =>
    rw [pool.blockToIndex_eq] at index
    split at seeded
    · cases seeded; exact pool
    · obtain ⟨⟨block, after⟩, taken, same⟩ := map_eq_some_iff.mp seeded
      cases same
      exact (pool.take (.inr ⟨b, index⟩) taken).1

lemma Allocator.Over.run (pool : a.Over ips size) {ops : List AllocOp} (ran : a.run ops = some a') : a'.Over ips size := by
  induction ops generalizing a with
  | nil => cases ran; exact pool
  | cons op ops ih =>
    obtain ⟨after, applied, rest⟩ := bind_eq_some_iff.mp ran
    refine ih ?_ rest
    cases op with
    | preassign source b => exact pool.preassign applied
    | assign source =>
      obtain ⟨⟨answer, a'⟩, assigned, same⟩ := map_eq_some_iff.mp applied
      cases same
      exact (pool.assign assigned).1

lemma CanReturn.laidOut (returned : CanReturn ips size b) : LaidOut ips size b := by
  obtain ⟨ops, source, a, a', ran, answer⟩ := returned
  exact (((Allocator.new_over ips size).run ran).assign answer).2 b rfl

lemma canReturn_of_seed {seed : PortBlock} (index : (Allocator.new ips size).blockToIndex seed = some idx)
  (block : (Allocator.new ips size).blockAt idx = some b) : CanReturn ips size b := by
  let after : Allocator := { Allocator.new ips size with
      used := insert idx ∅, assigned := (∅ : Map String PortBlock).insert "seeded" b }
  have seeded : (Allocator.new ips size).preassign "seeded" seed = some after := by
    rw [Allocator.preassign, index]
    simp only [Allocator.take, block]
    rfl
  refine ⟨[.preassign "seeded" seed], "seeded", after, after, ?_, ?_⟩
  · simp [Allocator.run, Allocator.apply, seeded]
  · simp [Allocator.assign, after]

end Ectobase.Mesh
