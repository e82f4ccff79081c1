import Ectobase.Shared.AlignedBlocks
import Ectobase.Shared.BitPrefix

namespace Ectobase.Flowplane

open Shared

def alignedSize (lo : Nat) : Nat :=
  if lo = 0 then 2 ^ 16 else lo &&& (2 ^ 32 - lo)

lemma alignedSize_two_pow (lo : Nat) (bound : lo < 2 ^ 16) :
  ∃ t, t <= 16 /\ alignedSize lo = 2 ^ t /\ 2 ^ t ∣ lo /\ ∀ m, m <= 16 -> 2 ^ m ∣ lo -> m <= t := by
  unfold alignedSize
  by_cases zero : lo = 0
  · exact ⟨16, le_refl _, if_pos zero, by simp [zero], fun m le _ => le⟩
  · obtain ⟨t, low, divides, odd⟩ := and_two_pow_sub_self 32 lo (by omega) (by omega)
    refine ⟨t, ?_, by rw [if_neg zero, low], divides, fun m _ multiple => ?_⟩
    swap
    · by_contra above
      exact odd ((Nat.pow_dvd_pow 2 (by omega)).trans multiple)
    by_contra large
    have factor : 2 ^ t <= lo := Nat.le_of_dvd (by omega) divides
    have power : 2 ^ 16 <= 2 ^ t := Nat.pow_le_pow_right (by omega) (by omega)
    omega

variable (lo hi : Nat) (within : lo <= hi)

lemma fitBlock_alignedSize (bound : hi < 2 ^ 16) :
  ∃ k, k <= 16 /\ fitBlock lo hi within (alignedSize lo) = 2 ^ k /\ 2 ^ k ∣ lo /\
    lo + 2 ^ k <= hi + 1 /\ ∀ m, 2 ^ m ∣ lo -> lo + 2 ^ m <= hi + 1 -> m <= k := by
  obtain ⟨t, small, size, divides, top⟩ := alignedSize_two_pow lo (by omega)
  obtain ⟨k, le, fit, room, largest⟩ := fitBlock_two_pow lo hi within t
  refine ⟨k, by omega, by rw [size, fit], (Nat.pow_dvd_pow 2 le).trans divides, room, fun m aligned fits => ?_⟩
  have bits : m <= 16 := (Nat.pow_le_pow_iff_right (by omega : 1 < 2)).mp (by omega)
  exact largest m (top m bits aligned) fits

lemma fitBlock_alignedSize_pos (bound : hi < 2 ^ 16) :
  0 < fitBlock lo hi within (alignedSize lo) := by
  obtain ⟨k, _, fit, _⟩ := fitBlock_alignedSize lo hi within bound
  rw [fit]
  exact Nat.two_pow_pos k

def portPrefixesFrom (lo hi : Nat) (bound : hi < 2 ^ 16) : List (UInt16 × Nat) :=
  if within : lo <= hi then
    (UInt16.ofNat lo, 16 - trailingZeros 32 (fitBlock lo hi within (alignedSize lo))) ::
      portPrefixesFrom (lo + fitBlock lo hi within (alignedSize lo)) hi bound
  else []
termination_by hi + 1 - lo
decreasing_by
  have positive := fitBlock_alignedSize_pos lo hi within bound
  omega

-- (value, prefix_bits) pairs.
def portPrefixes (lo hi : UInt16) : List (UInt16 × Nat) :=
  portPrefixesFrom lo.toNat hi.toNat hi.toNat_lt

def portPrefixCountFrom (lo hi : Nat) (bound : hi < 2 ^ 16) (n : Nat) : Nat :=
  if within : lo <= hi then
    portPrefixCountFrom (lo + fitBlock lo hi within (alignedSize lo)) hi bound (n + 1)
  else n
termination_by hi + 1 - lo
decreasing_by
  have positive := fitBlock_alignedSize_pos lo hi within bound
  omega

def portPrefixCount (lo hi : UInt16) : Nat :=
  portPrefixCountFrom lo.toNat hi.toNat hi.toNat_lt 0

def portBlock (pair : UInt16 × Nat) : Nat × Nat :=
  (pair.1.toNat, 2 ^ (16 - pair.2))

def AlignedPair (pair : UInt16 × Nat) : Prop :=
  pair.2 <= 16 /\ 2 ^ (16 - pair.2) ∣ pair.1.toNat

lemma portPrefixesFrom_correct (bound : hi < 2 ^ 16) (start : lo <= hi + 1) :
  Tiles lo (hi + 1) ((portPrefixesFrom lo hi bound).map portBlock) /\
    ∀ pair ∈ portPrefixesFrom lo hi bound, AlignedPair pair := by
  fun_induction portPrefixesFrom lo hi bound with
  | case1 lo within ih =>
    obtain ⟨k, small, fit, divides, room, _⟩ := fitBlock_alignedSize lo hi within bound
    obtain ⟨tiles, aligned⟩ := ih (by omega)
    have value : (UInt16.ofNat lo).toNat = lo := by
      rw [UInt16.toNat_ofNat']
      exact Nat.mod_eq_of_lt (by omega)
    have bits : 16 - (16 - trailingZeros 32 (2 ^ k)) = k := by
      rw [trailingZeros_two_pow 32 k (by omega)]
      omega
    have head : portBlock
        (UInt16.ofNat lo, 16 - trailingZeros 32 (fitBlock lo hi within (alignedSize lo))) =
          (lo, 2 ^ k) := by
      simp only [portBlock, value, fit, bits]
    constructor
    · rw [List.map_cons, head]
      exact ⟨rfl, Nat.two_pow_pos k, by rw [fit] at tiles ⊢; exact tiles⟩
    · intro pair member
      rcases List.mem_cons.mp member with rfl | tail
      · refine ⟨Nat.sub_le _ _, ?_⟩
        simpa only [value, fit, bits] using divides
      · exact aligned pair tail
  | case2 lo outside =>
    exact ⟨by simpa [Tiles] using by omega, by simp⟩

lemma portPrefixes_aligned (lo hi : UInt16) (pair : UInt16 × Nat)
  (member : pair ∈ portPrefixes lo hi) : AlignedPair pair := by
  by_cases within : lo.toNat <= hi.toNat + 1
  · exact (portPrefixesFrom_correct _ _ hi.toNat_lt within).2 pair member
  · rw [portPrefixes, portPrefixesFrom, dif_neg (by omega)] at member
    simp at member

lemma portPrefixes_cover (lo hi p : UInt16) :
  (∃ pair ∈ portPrefixes lo hi,
    pair.1.toNat <= p.toNat /\ p.toNat < pair.1.toNat + 2 ^ (16 - pair.2)) ↔
    lo <= p /\ p <= hi := by
  rw [UInt16.le_iff_toNat_le, UInt16.le_iff_toNat_le]
  by_cases within : lo.toNat <= hi.toNat + 1
  · have tiles := (portPrefixesFrom_correct _ _ hi.toNat_lt within).1
    have cover := tiles.mem_iff p.toNat
    simp only [List.mem_map, exists_exists_and_eq_and, portBlock] at cover
    rw [portPrefixes, cover]
    omega
  · rw [portPrefixes, portPrefixesFrom, dif_neg (by omega)]
    simp
    omega

lemma add_le_of_dvd {d a b : Nat} (left : d ∣ a) (right : d ∣ b) (below : a < b) : a + d <= b := by
  have gap := Nat.le_of_dvd (Nat.sub_pos_of_lt below) (Nat.dvd_sub right left)
  omega

-- Every exact cover has a block inside the first one of the greedy cover.
lemma length_le_cover (bound : hi < 2 ^ 16) {cover : List (Nat × Nat)} (covers : Covers lo (hi + 1) cover) :
  (portPrefixesFrom lo hi bound).length <= cover.length := by
  fun_induction portPrefixesFrom lo hi bound generalizing cover with
  | case1 lo within ih =>
    obtain ⟨aligned, covers⟩ := covers
    obtain ⟨k, -, fit, divides, room, largest⟩ := fitBlock_alignedSize lo hi within bound
    rw [fit] at ih ⊢
    have unit := Nat.two_pow_pos k
    have inside (c : Nat × Nat) (member : c ∈ cover) : lo <= c.1 /\ c.1 + 2 ^ c.2 <= hi + 1 := by
      have size := Nat.two_pow_pos c.2
      have first := (covers c.1).mp ⟨c, member, le_refl _, by omega⟩
      have last := (covers (c.1 + 2 ^ c.2 - 1)).mp ⟨c, member, by omega, by omega⟩
      omega
    have shorter : (cover.filter fun c => lo + 2 ^ k <= c.1).length < cover.length := by
      obtain ⟨c, member, here⟩ := (covers lo).mpr ⟨le_refl _, by omega⟩
      exact List.length_filter_lt_length_iff_exists.mpr ⟨c, member, by simp; omega⟩
    refine (Nat.succ_le_succ (ih ⟨fun c member => aligned c (List.mem_filter.mp member).1, fun p => ?_⟩)).trans
      shorter
    constructor
    · rintro ⟨c, member, here⟩
      obtain ⟨member, beyond⟩ := List.mem_filter.mp member
      have := of_decide_eq_true beyond
      have := (covers p).mp ⟨c, member, here⟩
      omega
    · rintro ⟨beyond, last⟩
      obtain ⟨c, member, here⟩ := (covers p).mpr ⟨by omega, last⟩
      obtain ⟨after, ends⟩ := inside c member
      refine ⟨c, List.mem_filter.mpr ⟨member, decide_eq_true ?_⟩, here⟩
      by_contra before
      rcases Nat.le_total c.2 k with finer | coarser
      · have multiple : 2 ^ c.2 ∣ lo + 2 ^ k :=
          (Nat.pow_dvd_pow 2 finer).trans (Nat.dvd_add divides (dvd_refl _))
        have := add_le_of_dvd (aligned c member) multiple (by omega)
        omega
      · have multiple : 2 ^ k ∣ c.1 := (Nat.pow_dvd_pow 2 coarser).trans (aligned c member)
        have start : c.1 = lo := by
          by_contra differs
          have := add_le_of_dvd divides multiple (by omega)
          omega
        have same : c.2 = k := le_antisymm (largest c.2 (start ▸ aligned c member) (by omega)) coarser
        rw [same] at here
        omega
  | case2 => exact Nat.zero_le _

lemma portPrefixCountFrom_eq (bound : hi < 2 ^ 16) (n : Nat) :
  portPrefixCountFrom lo hi bound n = n + (portPrefixesFrom lo hi bound).length := by
  fun_induction portPrefixCountFrom lo hi bound n with
  | case1 lo n within ih =>
    rw [ih, portPrefixesFrom.eq_def lo, dif_pos within, List.length_cons]
    omega
  | case2 lo n outside =>
    rw [portPrefixesFrom, dif_neg outside]
    rfl

def PairHas (pair : UInt16 × Nat) (p : UInt16) : Prop :=
  pair.1.toNat <= p.toNat /\ p.toNat < pair.1.toNat + 2 ^ (16 - pair.2)

lemma covers_of_pairs {lo hi : UInt16} {cover : List (UInt16 × Nat)}
  (aligned : ∀ pair ∈ cover, AlignedPair pair)
  (covers : ∀ p, (∃ pair ∈ cover, PairHas pair p) ↔ lo <= p /\ p <= hi) :
  Covers lo.toNat (hi.toNat + 1) (cover.map fun pair => (pair.1.toNat, 16 - pair.2)) := by
  refine ⟨List.forall_mem_map.mpr fun pair listed => (aligned pair listed).2, fun p => ?_⟩
  simp only [List.mem_map, exists_exists_and_eq_and, Nat.lt_succ_iff]
  by_cases port : p < 2 ^ 16
  · have value : (UInt16.ofNat p).toNat = p := UInt16.toNat_ofNat_of_lt' port
    simpa only [PairHas, UInt16.le_iff_toNat_le, value] using covers (UInt16.ofNat p)
  · have top := hi.toNat_lt
    refine iff_of_false ?_ (by omega)
    rintro ⟨pair, listed, here⟩
    have whole : 2 ^ (16 - pair.2) ∣ 2 ^ 16 := Nat.pow_dvd_pow 2 (by omega)
    have := add_le_of_dvd (aligned pair listed).2 whole pair.1.toNat_lt
    omega

lemma length_portPrefixes (lo hi : UInt16) : (portPrefixes lo hi).length <= 30 := by
  by_cases within : lo.toNat <= hi.toNat
  · obtain ⟨cover, covers, short⟩ := coverable_within (m := 16) (Nat.dvd_zero _) (Nat.zero_le lo.toNat)
      (Nat.lt_succ_of_le within) (by have := hi.toNat_lt; omega)
    exact (length_le_cover _ _ hi.toNat_lt covers).trans short
  · rw [portPrefixes, portPrefixesFrom, dif_neg within]
    exact Nat.zero_le 30

theorem port_prefixes_exact (lo hi : UInt16) :
  (∀ pair ∈ portPrefixes lo hi, AlignedPair pair) /\
  (portPrefixes lo hi).Pairwise (fun a b => ∀ p, ¬ (PairHas a p /\ PairHas b p)) /\
  (∀ p, (∃ pair ∈ portPrefixes lo hi, PairHas pair p) ↔ lo <= p /\ p <= hi) /\
  (portPrefixes lo hi).length <= 30 /\
  (∀ cover : List (UInt16 × Nat), (∀ pair ∈ cover, AlignedPair pair) ->
    (∀ p, (∃ pair ∈ cover, PairHas pair p) ↔ lo <= p /\ p <= hi) ->
      (portPrefixes lo hi).length <= cover.length) /\
  portPrefixCount lo hi = (portPrefixes lo hi).length := by
  refine ⟨portPrefixes_aligned lo hi, ?_, portPrefixes_cover lo hi, length_portPrefixes lo hi,
    fun cover aligned covers => ?_, ?_⟩
  · by_cases within : lo.toNat <= hi.toNat + 1
    · have tiles := (portPrefixesFrom_correct _ _ hi.toNat_lt within).1
      refine (List.pairwise_map.mp tiles.pairwise.2).imp fun apart p both => ?_
      simp only [PairHas, portBlock] at both apart
      omega
    · rw [portPrefixes, portPrefixesFrom, dif_neg (by omega)]
      exact .nil
  · have shortest := length_le_cover _ _ hi.toNat_lt (covers_of_pairs aligned covers)
    rwa [List.length_map] at shortest
  · rw [portPrefixCount, portPrefixCountFrom_eq, Nat.zero_add, portPrefixes]

def toBeBytes (v : UInt16) : UInt8 × UInt8 :=
  ((v >>> 8).toUInt8, v.toUInt8)

lemma bitAt_toBeBytes (v : UInt16) (i : Nat) (bound : i < 16) :
  bitAt [(toBeBytes v).1, (toBeBytes v).2] i = v.toNat.testBit (15 - i) := by
  have word : bitAt [(toBeBytes v).1, (toBeBytes v).2] i = v.toBitVec.getMsbD i := by
    interval_cases i <;> simp [bitAt, toBeBytes, BitVec.getMsbD]
  rw [word, BitVec.getMsbD, decide_eq_true bound, Bool.true_and]
  rfl

lemma bitsAgree_toBeBytes (a b : UInt16) (bits : Nat) (bound : bits <= 16) :
  BitsAgree [(toBeBytes a).1, (toBeBytes a).2] [(toBeBytes b).1, (toBeBytes b).2] bits ↔
    a.toNat / 2 ^ (16 - bits) = b.toNat / 2 ^ (16 - bits) := by
  constructor
  · intro agree
    apply Nat.eq_of_testBit_eq
    intro j
    rw [Nat.testBit_div_two_pow, Nat.testBit_div_two_pow]
    by_cases inside : j + (16 - bits) < 16
    · have bit := agree (15 - (j + (16 - bits))) (by omega)
      rw [bitAt_toBeBytes a _ (by omega), bitAt_toBeBytes b _ (by omega)] at bit
      rwa [show 15 - (15 - (j + (16 - bits))) = j + (16 - bits) by omega] at bit
    · have high (v : UInt16) : v.toNat.testBit (j + (16 - bits)) = false :=
        Nat.testBit_lt_two_pow (v.toNat_lt.trans_le (Nat.pow_le_pow_right (by omega) (by omega)))
      rw [high a, high b]
  · intro same i within
    rw [bitAt_toBeBytes a i (by omega), bitAt_toBeBytes b i (by omega)]
    have bit := congrArg (fun n => n.testBit (bits - 1 - i)) same
    simp only [Nat.testBit_div_two_pow] at bit
    rwa [show bits - 1 - i + (16 - bits) = 15 - i by omega] at bit

lemma AlignedPair.bitsAgree_iff {pair : UInt16 × Nat} (h : AlignedPair pair) (p : UInt16) :
  BitsAgree [(toBeBytes pair.1).1, (toBeBytes pair.1).2] [(toBeBytes p).1, (toBeBytes p).2]
      pair.2 ↔
    pair.1.toNat <= p.toNat /\ p.toNat < pair.1.toNat + 2 ^ (16 - pair.2) := by
  obtain ⟨bound, q, value⟩ := h
  have positive : 0 < 2 ^ (16 - pair.2) := Nat.two_pow_pos _
  rw [bitsAgree_toBeBytes _ _ _ bound, value, Nat.mul_div_cancel_left _ positive, eq_comm,
    Nat.div_eq_iff positive]
  rw [Nat.mul_comm]
  omega

end Ectobase.Flowplane
