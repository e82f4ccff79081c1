import Ectobase.Flowplane.NatHandlers
import Ectobase.Mesh.BlockLayout

namespace Ectobase.Mesh

open Ectobase.Shared Ectobase.Flowplane Allocator

def natRange (b : PortBlock) : UInt32 × UInt32 := let portMaxExcl := b.portMax.toUInt32 + 1
  (b.portMin.toUInt32, portMaxExcl)

def Agrees (b : PortBlock) : Prop :=
  ∃ lo hi, natSourcePorts (natRange b).1 (natRange b).2 = .ok (lo, hi) /\
    neighborNatPorts (natRange b).1 (natRange b).2 = .ok (lo, hi) /\
    ∀ p : Int, (lo.toNat <= p /\ p < hi.toNat) ↔ (b.portMin.toInt <= p /\ p <= b.portMax.toInt)

lemma agrees_iff {b : PortBlock} (nonempty : b.portMin.toInt <= b.portMax.toInt) (bound : b.portMax.toInt <= 65535) :
  Agrees b ↔ 0 <= b.portMin.toInt /\ b.portMax.toInt < 65535 := by
  have first := toNat_toUInt32 b.portMin
  have last := toNat_toUInt32 b.portMax
  have next : (b.portMax.toUInt32 + 1).toNat = (b.portMax.toUInt32.toNat + 1) % 2 ^ 32 :=
    UInt32.toNat_add _ _
  have low := b.portMin.le_toInt
  simp only [Agrees, natSourcePorts_ok, neighborNatPorts_ok, natRange]
  constructor
  · rintro ⟨lo, hi, ⟨portMin, portMax⟩, _⟩
    have small := lo.toNat_lt
    have small' := hi.toNat_lt
    -- a negative first port is huge as a `uint32`, and 65535 + 1 is out of range
    split at first <;> split at last <;> omega
  · rintro ⟨nonneg, room⟩
    rw [if_pos nonneg] at first
    rw [if_pos (by omega)] at last
    have lo : (UInt16.ofNat b.portMin.toUInt32.toNat).toNat = b.portMin.toUInt32.toNat := by
      rw [UInt16.toNat_ofNat', Nat.mod_eq_of_lt (by omega)]
    have hi : (UInt16.ofNat (b.portMax.toUInt32 + 1).toNat).toNat = (b.portMax.toUInt32 + 1).toNat := by
      rw [UInt16.toNat_ofNat', Nat.mod_eq_of_lt (by omega)]
    refine ⟨UInt16.ofNat b.portMin.toUInt32.toNat, UInt16.ofNat (b.portMax.toUInt32 + 1).toNat,
      ⟨lo.symm, hi.symm⟩, ⟨lo.symm, hi.symm, ?_⟩, ?_⟩
    · rw [UInt16.lt_iff_toNat_lt, lo, hi]
      omega
    · intro p
      rw [lo, hi]
      omega

section

variable (ips : List String) {size : Int32}
variable (positive : 1 <= size.toInt) (small : size.toInt <= 64512)

include positive small

lemma agrees_blockAt {idx : Int32} {b : PortBlock} (block : (new ips size).blockAt idx = some b) :
  0 <= idx.toInt.tdiv (new ips size).blocksPerIP.toInt /\ (Agrees b ↔
      0 <= 1024 + idx.toInt.tmod (new ips size).blocksPerIP.toInt * size.toInt /\
      idx.toInt.tmod (new ips size).blocksPerIP.toInt * size.toInt + size.toInt < 64512) := by
  obtain ⟨one, _⟩ := blocksPerIP_bounds ips positive small
  have counted : 0 < (new ips size).blocksPerIP.toInt := by omega
  unfold blockAt at block
  split at block
  · cases block
  next inPool =>
    obtain ⟨ip, _, rfl⟩ := Option.map_eq_some_iff.mp block
    rw [Int32.lt_iff_toInt_lt, Int32.toInt_zero, toInt_div_of_pos counted] at inPool
    have fits := place_fits ips positive small (Int.lt_tmod_of_pos idx.toInt counted) (Int.tmod_lt_of_pos idx.toInt counted)
    rw [<- Int32.toInt_mod] at fits ⊢
    obtain ⟨portMin, portMax⟩ := ports_toInt positive fits.1 fits.2
    refine ⟨by omega, ?_⟩
    have agreed := @agrees_iff ⟨ip, firstUsablePort + idx % (new ips size).blocksPerIP * size,
      firstUsablePort + idx % (new ips size).blocksPerIP * size + size - 1⟩
    rw [portMin, portMax] at agreed
    refine (agreed (by omega) (by omega)).trans ?_
    omega

lemma blockAt_isSome (inhabited : ips ≠ []) {idx : Int32} (low : -(new ips size).blocksPerIP.toInt < idx.toInt)
  (high : idx.toInt < (new ips size).blocksPerIP.toInt) :
  ∃ b, (new ips size).blockAt idx = some b := by
  obtain ⟨one, _⟩ := blocksPerIP_bounds ips positive small
  have counted : 0 < (new ips size).blocksPerIP.toInt := by omega
  have first : idx / (new ips size).blocksPerIP = 0 := by
    apply Int32.toInt_inj.mp
    rw [toInt_div_of_pos counted, tdiv_of_within low high, Int32.toInt_zero]
  obtain ⟨ip, rest, cons⟩ := List.exists_cons_of_ne_nil inhabited
  rw [blockAt, first, if_neg (by decide)]
  simp [new, cons]

lemma last_seed (inhabited : ips ≠ []) : ∃ seed idx, (new ips size).blockToIndex seed = some idx /\
    idx.toInt = (new ips size).blocksPerIP.toInt - 1 := by
  obtain ⟨one, _⟩ := blocksPerIP_bounds ips positive small
  obtain ⟨ip, rest, cons⟩ := List.exists_cons_of_ne_nil inhabited
  let count := (new ips size).blocksPerIP
  have counted : 1 <= count.toInt := one
  let off := firstUsablePort + (count - 1) * size - firstUsablePort
  have last : (count - 1).toInt = count.toInt - 1 := by
    have bound := count.toInt_lt
    rw [toInt_sub_of_fits] <;> rw [Int32.toInt_one]; all_goals omega
  have offset : off.toInt = (count - 1).toInt * size.toInt := by
    have fits := place_fits ips positive small (show -count.toInt < count.toInt - 1 by omega) (show _ < count.toInt by omega)
    rw [<- last] at fits
    have first := (ports_toInt positive fits.1 fits.2).1
    rw [toInt_sub_of_fits] <;> rw [first, show firstUsablePort.toInt = 1024 from rfl]
    all_goals omega
  have quotient : off / size = count - 1 := by
    apply Int32.toInt_inj.mp
    rw [toInt_div_of_pos (by omega), offset, Int.mul_tdiv_cancel _ (by omega)]
  have nonneg : ¬ off < 0 := by
    rw [Int32.lt_iff_toInt_lt, Int32.toInt_zero, offset, last, not_lt]
    exact mul_nonneg (by omega) (by omega)
  have remainder : off % size = 0 := by
    apply Int32.toInt_inj.mp
    rw [Int32.toInt_mod, offset, Int.mul_tmod_left, Int32.toInt_zero]
  have inside : ¬ count <= off / size := by
    rw [quotient, Int32.le_iff_toInt_le, last]
    omega
  have sized : ¬ (count = 0 \/ size = 0) := by
    rintro (zero | zero)
    · rw [zero, Int32.toInt_zero] at counted
      omega
    · rw [zero, Int32.toInt_zero] at positive
      omega
  refine ⟨⟨ip, firstUsablePort + (count - 1) * size, 0⟩, 0 * count + (count - 1), ?_, ?_⟩
  · have found : (new ips size).ips.findIdx? (· == ip) = some 0 := by
      simp [new, cons, List.findIdx?_cons]
    have index := blockToIndex_eq (b := ⟨ip, firstUsablePort + (count - 1) * size, 0⟩)
      sized found (by decide) rfl nonneg remainder inside
    exact index.trans (by show some (0 * count + off / size) = _; rw [quotient])
  · rw [Int32.zero_mul, Int32.zero_add, last]

end

-- The size does not divide the 64512 ports, and no seed's flat index overflows.
def Fits (ips : List String) (size : Int32) : Prop := ips = [] \/ (64512 % size.toInt ≠ 0 /\
  ∀ seed idx, (new ips size).blockToIndex seed = some idx ->
    -(new ips size).blocksPerIP.toInt < idx.toInt -> 0 <= 1024 + idx.toInt * size.toInt)

variable {ips : List String} {size : Int32}

lemma laidOut_agrees (positive : 1 <= size.toInt) (small : size.toInt <= 64512) (fits : Fits ips size) {b : PortBlock}
  (laid : LaidOut ips size b) : Agrees b := by
  obtain ⟨idx, reached, block⟩ := laid
  obtain ⟨one, room⟩ := blocksPerIP_bounds ips positive small
  obtain ⟨inPool, agrees⟩ := agrees_blockAt ips positive small block
  rw [agrees]
  rcases fits with empty | ⟨leaves, overflow⟩
  · simp [blockAt, new, empty] at block
  · by_cases nonneg : 0 <= idx.toInt
    · -- an index counted from zero: the last place ends short of the last port
      have low := Int.tmod_nonneg (new ips size).blocksPerIP.toInt nonneg
      have high := Int.tmod_lt_of_pos idx.toInt (show 0 < (new ips size).blocksPerIP.toInt by omega)
      have fit := place_fits ips positive small (by omega) high
      have start := mul_nonneg low (show 0 <= size.toInt by omega)
      refine ⟨by omega, lt_of_le_of_ne fit.2 ?_⟩
      intro full
      apply leaves
      rw [<- full, <- add_one_mul]
      exact Int.mul_emod_left _ _
    · -- a seed whose index wrapped around: the place is negative, below port 1024
      have wrapped := within_of_tdiv_nonneg (by omega) (by omega) inPool
      obtain ⟨seed, index⟩ := reached.resolve_left nonneg
      rw [tmod_of_within wrapped (by omega)]
      refine ⟨overflow seed idx index wrapped, ?_⟩
      have below := mul_le_mul_of_nonneg_right (show idx.toInt <= -1 by omega) (show 0 <= size.toInt by omega)
      omega

theorem port_blocks_agree_iff (ips : List String) (size : Int32) (positive : 1 <= size.toInt) (small : size.toInt <= 64512) :
  (∀ b, CanReturn ips size b -> Agrees b) ↔ Fits ips size := by
  constructor
  · intro agreed
    by_cases empty : ips = []
    · exact .inl empty
    · obtain ⟨one, room⟩ := blocksPerIP_bounds ips positive small
      refine .inr ⟨?_, ?_⟩
      · -- the last block of the first address ends at port 65535 if the size divides evenly
        intro divides
        obtain ⟨seed, idx, index, last⟩ := last_seed ips positive small empty
        obtain ⟨b, block⟩ := blockAt_isSome ips positive small empty
          (show -(new ips size).blocksPerIP.toInt < idx.toInt by omega) (by omega)
        obtain ⟨_, agrees⟩ := agrees_blockAt ips positive small block
        have room := (agrees.mp (agreed b (canReturn_of_seed index block))).2
        rw [tmod_of_within (by omega) (by omega), last, sub_mul, one_mul, sub_add_cancel,
          blocksPerIP_eq ips positive small, Int.ediv_mul_cancel_of_emod_eq_zero divides] at room
        omega
      · intro seed idx index wrapped
        by_contra below
        have negative : idx.toInt < 0 := by
          by_contra nonneg
          have := mul_nonneg (show 0 <= idx.toInt by omega) (show 0 <= size.toInt by omega)
          omega
        obtain ⟨b, block⟩ := blockAt_isSome ips positive small empty wrapped (by omega)
        obtain ⟨_, agrees⟩ := agrees_blockAt ips positive small block
        have start := (agrees.mp (agreed b (canReturn_of_seed index block))).1
        rw [tmod_of_within wrapped (by omega)] at start
        exact below start
  · intro fits b returned
    exact laidOut_agrees positive small fits returned.laidOut

-- 63 blocks of 1024: the dataplane refuses the range that ends at 65535.
theorem top_block_refused :
  let top : PortBlock := ⟨"203.0.113.1", 64512, 65535⟩
  CanReturn ["203.0.113.1"] 1024 top /\ ¬ Agrees top /\
    portU16 (natRange top).2 = .error (.invalid "port 65536 out of range (0..=65535)") := by
  intro top
  refine ⟨?_, ?_, by decide +kernel⟩
  · have answer : ((new ["203.0.113.1"] 1024).run ((List.range 62).map fun i => .assign (toString i))).bind
        (fun a => (a.assign "last").map Prod.fst) = some (some top) := by decide +kernel
    obtain ⟨a, ran, answer⟩ := Option.bind_eq_some_iff.mp answer
    obtain ⟨⟨_, a'⟩, assigned, same⟩ := Option.map_eq_some_iff.mp answer
    cases same
    exact ⟨_, "last", a, a', ran, assigned⟩
  · have first : top.portMin.toInt = 64512 := by decide
    have last : top.portMax.toInt = 65535 := by decide
    rw [agrees_iff (by omega) (by omega)]
    omega

lemma fits_of_small (positive : 1 <= size.toInt) (small : size.toInt <= 64512) (leaves : 64512 % size.toInt ≠ 0)
  (few : ips.length * (64512 / size.toInt) < 2 ^ 31) : Fits ips size := by
  refine .inr ⟨leaves, ?_⟩
  intro seed idx index _
  rw [<- blocksPerIP_eq ips positive small] at few
  obtain ⟨one, _⟩ := blocksPerIP_bounds ips positive small
  obtain ⟨i, q, inside, nonneg, below, rfl⟩ := blockToIndex_some (show 0 < (new ips size).size.toInt from positive) index
  rw [(index_toInt few inside nonneg below).2]
  have start := mul_nonneg (Int.natCast_nonneg i) (show 0 <= (new ips size).blocksPerIP.toInt by omega)
  have := mul_nonneg (add_nonneg start nonneg) (show 0 <= size.toInt by omega)
  omega

theorem thousand_port_blocks_agree :
  let first : PortBlock := ⟨"203.0.113.1", 1024, 2023⟩
  Fits ["203.0.113.1", "203.0.113.2"] 1000 /\ CanReturn ["203.0.113.1", "203.0.113.2"] 1000 first /\ Agrees first := by
  intro first
  have fits : Fits ["203.0.113.1", "203.0.113.2"] 1000 :=
    fits_of_small (by decide) (by decide) (by decide) (by decide)
  have returned : CanReturn ["203.0.113.1", "203.0.113.2"] 1000 first := by
    have answer : ((new ["203.0.113.1", "203.0.113.2"] 1000).assign "vm").map Prod.fst
      = some (some first) := by decide +kernel
    obtain ⟨⟨_, a'⟩, assigned, same⟩ := Option.map_eq_some_iff.mp answer
    cases same
    exact ⟨[], "vm", _, a', rfl, assigned⟩
  exact ⟨fits, returned, (port_blocks_agree_iff _ 1000 (by decide) (by decide)).mpr fits first returned⟩

end Ectobase.Mesh
