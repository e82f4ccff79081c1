import Ectobase.Mesh.Allocator
import Mathlib.Algebra.Order.Ring.Int

namespace Ectobase.Mesh

open Shared List Allocator

lemma ports_toInt {r size : Int32} (positive : 1 <= size.toInt) (low : -64512 <= r.toInt * size.toInt)
  (high : r.toInt * size.toInt + size.toInt <= 64512) :
  (firstUsablePort + r * size).toInt = 1024 + r.toInt * size.toInt /\
    (firstUsablePort + r * size + size - 1).toInt = 1023 + r.toInt * size.toInt + size.toInt := by
  have offset : (r * size).toInt = r.toInt * size.toInt := toInt_mul_of_fits (by omega) (by omega)
  have first : (firstUsablePort + r * size).toInt = 1024 + r.toInt * size.toInt := by
    rw [toInt_add_of_fits, offset]
    · rfl
    all_goals rw [offset, show firstUsablePort.toInt = 1024 from rfl]; omega
  have next : (firstUsablePort + r * size + size).toInt = 1024 + r.toInt * size.toInt + size.toInt := by
    rw [toInt_add_of_fits, first] <;> rw [first] <;> omega
  refine ⟨first, ?_⟩
  rw [toInt_sub_of_fits, next, Int32.toInt_one]
  · omega
  all_goals rw [next, Int32.toInt_one]; omega

section

variable (ips : List String) {size : Int32}
variable (positive : 1 <= size.toInt) (small : size.toInt <= 64512)

include positive small

lemma blocksPerIP_eq : (new ips size).blocksPerIP.toInt = 64512 / size.toInt := by
  have ports : (lastUsablePort - firstUsablePort + 1).toInt = 64512 := by decide
  have sized : 0 < size := Int32.lt_iff_toInt_lt.mpr (by rw [Int32.toInt_zero]; omega)
  simp only [new, if_pos sized]
  rw [toInt_div_of_pos (by omega), ports, Int.tdiv_eq_ediv_of_nonneg (by omega)]

lemma blocksPerIP_bounds : 1 <= (new ips size).blocksPerIP.toInt /\
    (new ips size).blocksPerIP.toInt * size.toInt <= 64512 := by
  rw [blocksPerIP_eq ips positive small]
  exact ⟨Int.le_ediv_of_mul_le (by omega) (by omega), Int.ediv_mul_le _ (by omega)⟩

lemma place_fits {r : Int} (low : -(new ips size).blocksPerIP.toInt < r) (high : r < (new ips size).blocksPerIP.toInt) :
  -64512 <= r * size.toInt /\ r * size.toInt + size.toInt <= 64512 := by
  obtain ⟨_, room⟩ := blocksPerIP_bounds ips positive small
  have nonneg : 0 <= size.toInt := by omega
  constructor
  · have below := mul_le_mul_of_nonneg_right low.le nonneg
    rw [neg_mul] at below
    omega
  · have above := mul_le_mul_of_nonneg_right (Int.add_one_le_of_lt high) nonneg
    rw [add_mul, one_mul] at above
    omega

end

variable {b : PortBlock} {idx : Int32}

section

def Counted (ips : List String) (size : Int32) : Prop :=
  (ips.length : Int) * (new ips size).blocksPerIP.toInt < 2 ^ 31

instance (ips : List String) (size : Int32) : Decidable (Counted ips size) :=
  inferInstanceAs (Decidable (_ < _))

def Placed (size : Int32) (b : PortBlock) (q : Int32) : Prop :=
  0 <= q.toInt /\ q.toInt < (new [] size).blocksPerIP.toInt /\
    b.portMin = firstUsablePort + q * size /\ b.portMax = b.portMin + size - 1

structure Slot (ips : List String) (size : Int32) (idx : Int32) (b : PortBlock) : Prop where
  row : ∃ (i : Nat) (q : Int32), ips[i]? = some b.publicIP /\ Placed size b q /\
    idx.toInt = i * (new [] size).blocksPerIP.toInt + q.toInt

variable {ips : List String} {size : Int32}

lemma size_of_blocks (ips : List String) {size : Int32} (blocks : 1 <= (new ips size).blocksPerIP.toInt) :
  1 <= size.toInt /\ size.toInt <= 64512 := by
  simp only [new] at blocks
  split at blocks
  next positive =>
    rw [Int32.lt_iff_toInt_lt, Int32.toInt_zero] at positive
    refine ⟨positive, ?_⟩
    by_contra large
    have ports : (lastUsablePort - firstUsablePort + 1).toInt = 64512 := by decide
    rw [toInt_div_of_pos positive, ports, Int.tdiv_eq_zero_of_lt (by omega) (by omega)] at blocks
    omega
  · exact absurd blocks (by decide)

lemma Placed.sized {q : Int32} (placed : Placed size b q) : 1 <= size.toInt /\ size.toInt <= 64512 :=
  size_of_blocks [] (by obtain ⟨low, high, -⟩ := placed; omega)

lemma Placed.ports {q : Int32} (placed : Placed size b q) : b.portMin.toInt = 1024 + q.toInt * size.toInt /\
    b.portMax.toInt = 1023 + q.toInt * size.toInt + size.toInt /\
    0 <= q.toInt * size.toInt /\ q.toInt * size.toInt + size.toInt <= 64512 := by
  obtain ⟨positive, small⟩ := placed.sized
  obtain ⟨low, high, first, last⟩ := placed
  have fits := place_fits [] positive small (by omega) high
  have ports := ports_toInt positive fits.1 fits.2
  rw [last, first]
  exact ⟨ports.1, ports.2, mul_nonneg low (by omega), fits.2⟩

lemma Placed.unique {b' : PortBlock} {q : Int32} (placed : Placed size b q)
  (placed' : Placed size b' q) (ip : b.publicIP = b'.publicIP) : b = b' := by
  obtain ⟨-, -, first, last⟩ := placed
  obtain ⟨-, -, first', last'⟩ := placed'
  obtain ⟨ip1, min1, max1⟩ := b
  obtain ⟨ip2, min2, max2⟩ := b'
  simp_all

section

variable {k i i' q q' : Int}

lemma row_eq (low : 0 <= q) (high : q < k) (low' : 0 <= q') (high' : q' < k)
  (same : i * k + q = i' * k + q') : i = i' /\ q = q' := by
  have quotient (i q : Int) (low : 0 <= q) (high : q < k) : (i * k + q) / k = i := by
    rw [Int.add_comm, Int.add_mul_ediv_right q i (by omega), Int.ediv_eq_zero_of_lt low high, Int.zero_add]
  have rows : i = i' := by rw [<- quotient i q low high, same, quotient i' q' low' high']
  subst rows
  exact ⟨rfl, by omega⟩

lemma row_lt {n : Int} (low : 0 <= q) (high : q < k) (row : i < n) : i * k + q < n * k := by
  have step := mul_le_mul_of_nonneg_right (Int.add_one_le_of_lt row) (show 0 <= k by omega)
  rw [add_mul, one_mul] at step
  omega

end

variable {idx' : Int32} {b' : PortBlock}

lemma Slot.unique (slot : Slot ips size idx b) (slot' : Slot ips size idx b') : b = b' := by
  obtain ⟨i, q, ip, placed, index⟩ := slot.row
  obtain ⟨i', q', ip', placed', index'⟩ := slot'.row
  obtain ⟨rows, places⟩ := row_eq placed.1 placed.2.1 placed'.1 placed'.2.1 (index.symm.trans index')
  obtain rfl : i = i' := by exact_mod_cast rows
  obtain rfl : q = q' := Int32.toInt_inj.mp places
  exact placed.unique placed' (Option.mem_unique ip ip')

lemma Slot.disjoint {α : Type} (read : String -> α)
  (distinct : (ips.map read).Nodup) (slot : Slot ips size idx b) (slot' : Slot ips size idx' b')
  (differ : idx ≠ idx') (ip : read b.publicIP = read b'.publicIP) :
  b.portMax.toInt < b'.portMin.toInt \/ b'.portMax.toInt < b.portMin.toInt := by
  obtain ⟨i, q, listed, placed, index⟩ := slot.row
  obtain ⟨i', q', listed', placed', index'⟩ := slot'.row
  have rows : i = i' := by
    have same : (ips.map read)[i]? = (ips.map read)[i']? := by
      rw [getElem?_map, getElem?_map, listed, listed', Option.map_some, Option.map_some, ip]
    have bound : i < (ips.map read).length := by
      rw [length_map]
      exact (List.getElem?_eq_some_iff.mp listed).1
    exact (getElem?_inj bound distinct).mp same
  subst rows
  have places : q.toInt ≠ q'.toInt := fun same =>
    differ (Int32.toInt_inj.mp (by rw [index, index', same]))
  obtain ⟨sized, -⟩ := placed.sized
  obtain ⟨first, last, -⟩ := placed.ports
  obtain ⟨first', last', -⟩ := placed'.ports
  have apart {a b : Int} (less : a < b) : a * size.toInt + size.toInt <= b * size.toInt := by
    have step := mul_le_mul_of_nonneg_right (Int.add_one_le_of_lt less) (show 0 <= size.toInt by omega)
    rwa [add_mul, one_mul] at step
  rcases lt_or_gt_of_ne places with less | less
  · have := apart less
    omega
  · have := apart less
    omega

lemma Slot.index_unique (distinct : ips.Nodup) (slot : Slot ips size idx b) (slot' : Slot ips size idx' b) : idx = idx' := by
  by_contra differ
  obtain ⟨i, q, -, placed, -⟩ := slot.row
  obtain ⟨sized, -⟩ := placed.sized
  obtain ⟨first, last, -⟩ := placed.ports
  have apart := Slot.disjoint id (by simpa using distinct) slot slot' differ rfl
  omega

lemma index_toInt (counted : Counted ips size) {i : Nat} {q : Int32} (row : i < ips.length)
  (low : 0 <= q.toInt) (high : q.toInt < (new ips size).blocksPerIP.toInt) :
  (Int32.ofNat i).toInt = i /\ (Int32.ofNat i * (new ips size).blocksPerIP + q).toInt =
    i * (new ips size).blocksPerIP.toInt + q.toInt := by
  have below := row_lt low high (show (i : Int) < ips.length by exact_mod_cast row)
  have start := mul_nonneg (Int.natCast_nonneg i) (show 0 <= (new ips size).blocksPerIP.toInt by omega)
  have column := le_mul_of_one_le_right (Int.natCast_nonneg i) (show 1 <= (new ips size).blocksPerIP.toInt by omega)
  unfold Counted at counted
  have row : (Int32.ofNat i).toInt = i := Int32.toInt_ofNat_of_lt (by omega)
  have product : (Int32.ofNat i * (new ips size).blocksPerIP).toInt = i * (new ips size).blocksPerIP.toInt := by
    rw [toInt_mul_of_fits] <;> rw [row] <;> omega
  refine ⟨row, ?_⟩
  rw [toInt_add_of_fits] <;> rw [product] <;> omega

lemma blockAt_slot (low : 0 <= idx.toInt) (high : idx.toInt < ips.length * (new ips size).blocksPerIP.toInt) :
  ∃ b, (new ips size).blockAt idx = some b /\ Slot ips size idx b := by
  have counted : 0 < (new ips size).blocksPerIP.toInt := by
    by_contra none
    have := mul_nonpos_of_nonneg_of_nonpos (Int.natCast_nonneg ips.length)
      (show (new ips size).blocksPerIP.toInt <= 0 by omega)
    omega
  have quotient : (idx / (new ips size).blocksPerIP).toInt = idx.toInt / (new ips size).blocksPerIP.toInt := by
    rw [toInt_div_of_pos counted, Int.tdiv_eq_ediv_of_nonneg low]
  have remainder : (idx % (new ips size).blocksPerIP).toInt = idx.toInt % (new ips size).blocksPerIP.toInt := by
    rw [Int32.toInt_mod, Int.tmod_eq_emod_of_nonneg low]
  have row := Int.ediv_lt_of_lt_mul counted high
  have nonneg := Int.ediv_nonneg low counted.le
  have bound : (idx / (new ips size).blocksPerIP).toNatClampNeg < ips.length := by
    rw [Int32.toNatClampNeg, quotient]
    omega
  obtain ⟨ip, listed⟩ : ∃ ip, ips[(idx / (new ips size).blocksPerIP).toNatClampNeg]? =
    some ip := ⟨_, getElem?_eq_getElem bound⟩
  have inPool : ¬ idx / (new ips size).blocksPerIP < 0 := by
    rw [Int32.lt_iff_toInt_lt, Int32.toInt_zero, quotient]
    omega
  let portMin := firstUsablePort + idx % (new ips size).blocksPerIP * size
  have block : (new ips size).blockAt idx = some ⟨ip, portMin, portMin + size - 1⟩ := by
    rw [blockAt, if_neg inPool]
    exact congrArg (Option.map _) listed
  refine ⟨_, block, ⟨_, idx % (new ips size).blocksPerIP, listed, ⟨?_, ?_, rfl, rfl⟩, ?_⟩⟩
  · rw [remainder]
    exact Int.emod_nonneg _ counted.ne'
  · rw [remainder]
    exact Int.emod_lt_of_pos _ counted
  · have whole := Int.mul_ediv_add_emod idx.toInt (new ips size).blocksPerIP.toInt
    rw [remainder, Int32.toNatClampNeg, quotient, Int.toNat_of_nonneg nonneg, mul_comm]
    exact whole.symm

lemma blockToIndex_slot (counted : Counted ips size) {q : Int32} (placed : Placed size b q) (listed : b.publicIP ∈ ips) :
  ∃ idx, (new ips size).blockToIndex b = some idx /\ Slot ips size idx b := by
  obtain ⟨positive, small⟩ := placed.sized
  obtain ⟨first, -, nonneg, room⟩ := placed.ports
  have low := placed.1
  have high : q.toInt < (new ips size).blocksPerIP.toInt := placed.2.1
  have offset : (b.portMin - firstUsablePort).toInt = q.toInt * size.toInt := by
    rw [toInt_sub_of_fits] <;> rw [first, show firstUsablePort.toInt = 1024 from rfl] <;> omega
  have quotient : (b.portMin - firstUsablePort) / size = q := by
    apply Int32.toInt_inj.mp
    rw [toInt_div_of_pos (by omega), offset, Int.mul_tdiv_cancel _ (by omega)]
  have remainder : (b.portMin - firstUsablePort) % size = 0 := by
    apply Int32.toInt_inj.mp
    rw [Int32.toInt_mod, offset, Int.mul_tmod_left, Int32.toInt_zero]
  obtain ⟨i, found⟩ : ∃ i, ips.findIdx? (· == b.publicIP) = some i := by
    rw [<- Option.isSome_iff_exists, findIdx?_isSome, any_eq_true]
    exact ⟨b.publicIP, listed, beq_self_eq_true _⟩
  obtain ⟨row, here, -⟩ := findIdx?_eq_some_iff_getElem.mp found
  obtain ⟨rowIndex, index⟩ := index_toInt counted row low high
  have sized : ¬ ((new ips size).blocksPerIP = 0 \/ size = 0) := by
    rintro (zero | zero)
    · rw [zero, Int32.toInt_zero] at high
      omega
    · rw [zero, Int32.toInt_zero] at positive
      omega
  have inside : ¬ (new ips size).blocksPerIP <= (b.portMin - firstUsablePort) / size := by
    rw [quotient, Int32.le_iff_toInt_le]
    omega
  have blockIndex := blockToIndex_eq (a := new ips size) sized found
    (by rw [Int32.lt_iff_toInt_lt, rowIndex, Int32.toInt_zero]; omega) rfl
    (by rw [Int32.lt_iff_toInt_lt, offset, Int32.toInt_zero]; omega) remainder inside
  rw [show (new ips size).size = size from rfl, quotient] at blockIndex
  refine ⟨_, blockIndex, ⟨i, q, ?_, placed, index⟩⟩
  rw [getElem?_eq_getElem row, beq_iff_eq.mp here]

lemma Slot.placed (slot : Slot ips size idx b) : b.publicIP ∈ ips /\ ∃ q, Placed size b q := by
  obtain ⟨i, q, listed, placed, -⟩ := slot.row
  exact ⟨mem_of_getElem? listed, q, placed⟩

lemma Slot.nonneg (slot : Slot ips size idx b) : 0 <= idx.toInt := by
  obtain ⟨i, q, -, placed, index⟩ := slot.row
  rw [index]
  exact add_nonneg (mul_nonneg (Int.natCast_nonneg i) (placed.1.trans placed.2.1.le)) placed.1

lemma Slot.below (slot : Slot ips size idx b) : idx.toInt < ips.length * (new ips size).blocksPerIP.toInt := by
  obtain ⟨i, q, listed, placed, index⟩ := slot.row
  rw [index]
  exact row_lt placed.1 placed.2.1 (by exact_mod_cast (List.getElem?_eq_some_iff.mp listed).1)

lemma Slot.blockAt (slot : Slot ips size idx b) : (new ips size).blockAt idx = some b := by
  obtain ⟨b', block, slot'⟩ := blockAt_slot slot.nonneg slot.below
  rw [block, slot.unique slot']

lemma blocksPerIP_nonneg (ips : List String) (size : Int32) : 0 <= (new ips size).blocksPerIP.toInt := by
  simp only [new]
  split
  next positive =>
    rw [Int32.lt_iff_toInt_lt, Int32.toInt_zero] at positive
    rw [toInt_div_of_pos positive]
    exact Int.tdiv_nonneg (by decide) positive.le
  · decide

lemma total_toInt (counted : Counted ips size) : (new ips size).total.toInt =
    ips.length * (new ips size).blocksPerIP.toInt := by
  have nonneg := blocksPerIP_nonneg ips size
  have start := mul_nonneg (Int.natCast_nonneg ips.length) nonneg
  unfold Counted at counted
  by_cases none : (new ips size).blocksPerIP = 0
  · have empty : (new ips size).total = 0 := by
      rw [total, none, Int32.mul_zero]
    rw [empty, none, Int32.toInt_zero, mul_zero]
  · have some_ : (new ips size).blocksPerIP.toInt ≠ 0 := fun zero =>
      none (Int32.toInt_inj.mp zero)
    have column := le_mul_of_one_le_right (Int.natCast_nonneg ips.length)
      (show 1 <= (new ips size).blocksPerIP.toInt by omega)
    have length : (Int32.ofNat ips.length).toInt = ips.length := Int32.toInt_ofNat_of_lt (by omega)
    rw [total, toInt_mul_of_fits]
    all_goals rw [show (new ips size).ips.length = ips.length from rfl, length]
    all_goals omega

end

end Ectobase.Mesh
