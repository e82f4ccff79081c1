import Mathlib.Data.Nat.Bitwise
import Mathlib.Data.Nat.Factorization.Basic

namespace Ectobase.Shared

def Tiles : Nat -> Nat -> List (Nat × Nat) -> Prop
  | lo, hi, [] => lo = hi
  | lo, hi, (start, size) :: rest => start = lo /\ 0 < size /\ Tiles (lo + size) hi rest

variable {lo hi : Nat} {blocks : List (Nat × Nat)}

lemma Tiles.le (h : Tiles lo hi blocks) : lo <= hi := by
  induction blocks generalizing lo with
  | nil => exact Nat.le_of_eq h
  | cons block rest ih =>
    have tail := ih h.2.2
    omega

lemma Tiles.mem_iff (h : Tiles lo hi blocks) (p : Nat) :
  (∃ block ∈ blocks, block.1 <= p /\ p < block.1 + block.2) ↔ lo <= p /\ p < hi := by
  induction blocks generalizing lo with
  | nil =>
    have same : lo = hi := h
    simp only [List.not_mem_nil, false_and, exists_false, false_iff]
    omega
  | cons block rest ih =>
    obtain ⟨start, positive, tail⟩ := h
    have bound := tail.le
    rw [List.exists_mem_cons_iff, ih tail]
    omega

lemma Tiles.pairwise (h : Tiles lo hi blocks) :
  (∀ block ∈ blocks, lo <= block.1) /\ blocks.Pairwise fun a b => a.1 + a.2 <= b.1 := by
  induction blocks generalizing lo with
  | nil => exact ⟨nofun, .nil⟩
  | cons block rest ih =>
    obtain ⟨start, positive, tail⟩ := h
    obtain ⟨later, apart⟩ := ih tail
    refine ⟨List.forall_mem_cons.mpr ⟨start.ge, fun b member => ?_⟩, .cons (fun b member => ?_) apart⟩
    · exact (Nat.le_add_right lo _).trans (later b member)
    · exact start ▸ later b member

-- Starts and exponents.
def Covers (lo hi : Nat) (cover : List (Nat × Nat)) : Prop :=
  (∀ c ∈ cover, 2 ^ c.2 ∣ c.1) /\ ∀ p, (∃ c ∈ cover, c.1 <= p /\ p < c.1 + 2 ^ c.2) ↔ lo <= p /\ p < hi

def Coverable (lo hi n : Nat) : Prop := ∃ cover, Covers lo hi cover /\ cover.length <= n

lemma Coverable.block {k : Nat} (aligned : 2 ^ k ∣ lo) : Coverable lo (lo + 2 ^ k) 1 :=
  ⟨[(lo, k)], ⟨by simpa using aligned, fun p => by simp⟩, le_refl 1⟩

lemma Coverable.append {mid m n : Nat} (first : Coverable lo mid m) (second : Coverable mid hi n)
  (below : lo <= mid) (above : mid <= hi) : Coverable lo hi (m + n) := by
  obtain ⟨front, ⟨aligned, covers⟩, short⟩ := first
  obtain ⟨back, ⟨aligned', covers'⟩, short'⟩ := second
  refine ⟨front ++ back, ⟨List.forall_mem_append.mpr ⟨aligned, aligned'⟩, fun p => ?_⟩, ?_⟩
  · simp only [List.mem_append, or_and_right, exists_or, covers, covers']
    omega
  · rw [List.length_append]
    omega

lemma Coverable.mono {m n : Nat} (short : Coverable lo hi m) (le : m <= n) : Coverable lo hi n :=
  short.imp fun _ covers => ⟨covers.1, covers.2.trans le⟩

lemma coverable_upward {m : Nat} (aligned : 2 ^ m ∣ hi) (less : lo < hi) (room : hi <= lo + 2 ^ m) :
  Coverable lo hi (max m 1) := by
  induction m generalizing lo hi with
  | zero =>
    obtain rfl : hi = lo + 2 ^ 0 := by omega
    exact .block (by simp)
  | succ m ih =>
    have half : 2 ^ m ∣ hi := (Nat.pow_dvd_pow 2 m.le_succ).trans aligned
    by_cases small : hi <= lo + 2 ^ m
    · exact (ih half less small).mono (by omega)
    by_cases whole : hi = lo + 2 ^ (m + 1)
    · subst whole
      exact (Coverable.block ((Nat.dvd_add_left (dvd_refl _)).mp aligned)).mono (by omega)
    · have start := Nat.dvd_sub half (dvd_refl (2 ^ m))
      have last := Coverable.block start
      rw [Nat.sub_add_cancel (by omega)] at last
      refine ((ih start (by omega) (by omega)).append last (by omega) (by omega)).mono ?_
      cases m <;> omega

lemma coverable_downward {m : Nat} (aligned : 2 ^ m ∣ lo) (less : lo < hi)
  (room : hi <= lo + 2 ^ m) : Coverable lo hi (max m 1) := by
  induction m generalizing lo hi with
  | zero =>
    obtain rfl : hi = lo + 2 ^ 0 := by omega
    exact .block aligned
  | succ m ih =>
    have half : 2 ^ m ∣ lo := (Nat.pow_dvd_pow 2 m.le_succ).trans aligned
    by_cases small : hi <= lo + 2 ^ m
    · exact (ih half less small).mono (by omega)
    by_cases whole : hi = lo + 2 ^ (m + 1)
    · subst whole
      exact (Coverable.block aligned).mono (by omega)
    · refine ((Coverable.block half).append (ih (Nat.dvd_add half (dvd_refl _)) (by omega) (by omega))
        (by omega) (by omega)).mono ?_
      cases m <;> omega

lemma coverable_within {m base : Nat} (aligned : 2 ^ m ∣ base) (start : base <= lo) (less : lo < hi)
  (room : hi <= base + 2 ^ m) : Coverable lo hi (max (2 * (m - 1)) 2) := by
  induction m generalizing base with
  | zero => exact (coverable_downward (m := 0) (by simp) less (by omega)).mono (by omega)
  | succ m ih =>
    have half : 2 ^ m ∣ base := (Nat.pow_dvd_pow 2 m.le_succ).trans aligned
    have middle := Nat.dvd_add half (dvd_refl (2 ^ m))
    by_cases left : hi <= base + 2 ^ m
    · exact (ih half start left).mono (by omega)
    by_cases right : base + 2 ^ m <= lo
    · exact (ih middle right (by omega)).mono (by omega)
    · refine ((coverable_upward middle (by omega) (by omega)).append
        (coverable_downward middle (by omega) (by omega)) (by omega) (by omega)).mono ?_
      omega

lemma and_two_pow_sub_self (w x : Nat) (positive : 0 < x) (bound : x < 2 ^ w) :
  ∃ t, x &&& (2 ^ w - x) = 2 ^ t /\ 2 ^ t ∣ x /\ ¬ 2 ^ (t + 1) ∣ x := by
  obtain ⟨t, m, ⟨n, rfl⟩, rfl⟩ := Nat.exists_eq_two_pow_mul_odd (by omega : x ≠ 0)
  have unit : 0 < 2 ^ t := Nat.two_pow_pos t
  refine ⟨t, ?_, Dvd.intro _ rfl, fun above => ?_⟩
  swap
  · have even := Nat.dvd_of_mul_dvd_mul_left unit above
    omega
  have value : 2 ^ t * (2 * n + 1) = 2 ^ (t + 1) * n + 2 ^ t := by
    rw [Nat.mul_add, Nat.mul_one, <- Nat.mul_assoc, <- Nat.pow_succ]
  have low : 2 ^ t < 2 ^ (t + 1) := Nat.pow_lt_pow_succ (by decide)
  have width : t < w := (Nat.pow_lt_pow_iff_right one_lt_two).mp (by omega)
  have complement : 2 ^ w - 2 ^ t * (2 * n + 1) = 2 ^ w - (2 ^ (t + 1) * n + (2 ^ t - 1) + 1) := by omega
  apply Nat.eq_of_testBit_eq
  intro i
  -- Above the lowest set bit, a number and the complement of its predecessor have no bit in common.
  rw [Nat.testBit_and, complement, Nat.testBit_two_pow_sub_succ (by omega), value,
    Nat.testBit_two_pow_mul_add _ low, Nat.testBit_two_pow_mul_add _ (by omega), Nat.testBit_two_pow]
  by_cases inside : i < t + 1
  · rw [if_pos inside, if_pos inside, Nat.testBit_two_pow_sub_one]
    grind
  · rw [if_neg inside, if_neg inside]
    grind

def fitBlock (lo hi : Nat) (within : lo <= hi) (size : Nat) : Nat :=
  if hi < lo + size - 1 then fitBlock lo hi within (size / 2) else size
termination_by size
decreasing_by omega

lemma fitBlock_two_pow (lo hi : Nat) (within : lo <= hi) (t : Nat) :
  ∃ k, k <= t /\ fitBlock lo hi within (2 ^ t) = 2 ^ k /\ lo + 2 ^ k <= hi + 1 /\
    ∀ m, m <= t -> lo + 2 ^ m <= hi + 1 -> m <= k := by
  induction t with
  | zero =>
    refine ⟨0, le_refl _, ?_, by omega, fun m le _ => le⟩
    rw [fitBlock, if_neg (by omega)]
  | succ t ih =>
    rw [fitBlock]
    by_cases outside : hi < lo + 2 ^ (t + 1) - 1
    · have half : 2 ^ (t + 1) / 2 = 2 ^ t := by rw [Nat.pow_succ]; omega
      rw [if_pos outside, half]
      obtain ⟨k, bound, fit, room, largest⟩ := ih
      refine ⟨k, by omega, fit, room, fun m le fits => largest m ?_ fits⟩
      refine Nat.le_of_lt_succ (lt_of_le_of_ne le ?_)
      rintro rfl
      omega
    · have positive : 0 < 2 ^ (t + 1) := Nat.two_pow_pos _
      exact ⟨t + 1, le_refl _, if_neg outside, by omega, fun m le _ => le⟩

def trailingZeros (w n : Nat) : Nat := ((List.range w).find? n.testBit).getD w

lemma trailingZeros_two_pow (w k : Nat) (bound : k < w) : trailingZeros w (2 ^ k) = k := by
  have first : (List.range w).find? (2 ^ k).testBit = some k := by
    rw [List.find?_range_eq_some]
    refine ⟨by simp, by simpa using bound, fun j below => ?_⟩
    rw [Nat.testBit_two_pow]
    simpa using Nat.ne_of_gt below
  rw [trailingZeros, first, Option.getD_some]

end Ectobase.Shared
