import Mathlib.Data.List.GetD
import Mathlib.Tactic.IntervalCases

namespace Ectobase.Shared

def bitAt (bytes : List UInt8) (i : Nat) : Bool := (bytes.getD (i / 8) 0).toBitVec.getMsbD (i % 8)

def BitsAgree (a b : List UInt8) (len : Nat) : Prop := ∀ i, i < len -> bitAt a i = bitAt b i

lemma BitsAgree.refl (a : List UInt8) (len : Nat) : BitsAgree a a len := fun _ _ => rfl

variable {a b : List UInt8} (x y : UInt8) (bits : Nat)

lemma BitsAgree.symm {len : Nat} (h : BitsAgree a b len) : BitsAgree b a len :=
  fun i bound => (h i bound).symm

lemma BitsAgree.trans {a b c : List UInt8} {len : Nat}
  (left : BitsAgree a b len) (right : BitsAgree b c len) : BitsAgree a c len :=
  fun i bound => (left i bound).trans (right i bound)

lemma BitsAgree.mono {short long : Nat} (h : BitsAgree a b long) (bound : short <= long) : BitsAgree a b short :=
  fun i within => h i (by omega)

def maskByte (bits : Nat) : UInt8 := if bits = 0 then 0 else 0xff <<< UInt8.ofNat (8 - bits)

lemma maskByte_getMsbD (bits k : Nat) (hbits : bits <= 8) (hk : k < 8) :
  (maskByte bits).toBitVec.getMsbD k = decide (k < bits) := by
  interval_cases bits <;> interval_cases k <;> rfl

lemma byte_ext (h : ∀ k, k < 8 -> x.toBitVec.getMsbD k = y.toBitVec.getMsbD k) : x = y := by
  apply UInt8.eq_of_toBitVec_eq
  apply BitVec.eq_of_getMsbD_eq
  intro k bound
  exact h k bound

lemma and_maskByte_eq_iff (hbits : bits <= 8) : x &&& maskByte bits = y &&& maskByte bits ↔
    ∀ k, k < bits -> x.toBitVec.getMsbD k = y.toBitVec.getMsbD k := by
  constructor
  · intro same k bound
    have bit := congrArg (fun b : UInt8 => b.toBitVec.getMsbD k) same
    simpa [BitVec.getMsbD_and, maskByte_getMsbD bits k hbits (by omega), bound] using bit
  · intro agree
    apply byte_ext
    intro k hk
    rw [UInt8.toBitVec_and, UInt8.toBitVec_and, BitVec.getMsbD_and, BitVec.getMsbD_and, maskByte_getMsbD bits k hbits hk]
    by_cases bound : k < bits
    · simp [bound, agree k bound]
    · simp [bound]

lemma xor_and_maskByte_eq_zero_iff (hbits : bits <= 8) :
  (x ^^^ y) &&& maskByte bits = 0 ↔ x &&& maskByte bits = y &&& maskByte bits := by
  have zero : (0 : UInt8) = 0 &&& maskByte bits := by simp
  rw [zero, and_maskByte_eq_iff _ _ _ hbits, and_maskByte_eq_iff _ _ _ hbits]
  refine forall₂_congr fun k bound => ?_
  simp [BitVec.getMsbD_xor]

@[simp] lemma and_maskByte_eight (x : UInt8) : x &&& maskByte 8 = x := by
  apply byte_ext
  intro k hk
  simp [BitVec.getMsbD_and, maskByte_getMsbD 8 k (by omega) hk, hk]

@[simp] lemma and_maskByte_zero (x : UInt8) : x &&& maskByte 0 = 0 := by
  simp [maskByte]

def bitsInByte (len i : Nat) : Nat := min 8 (len - 8 * i)

lemma bitsInByte_le (len i : Nat) : bitsInByte len i <= 8 := Nat.min_le_left _ _

lemma bitsAgree_iff_masked (a b : List UInt8) (len : Nat) : BitsAgree a b len ↔
    ∀ i, a.getD i 0 &&& maskByte (bitsInByte len i) = b.getD i 0 &&& maskByte (bitsInByte len i) := by
  constructor
  · intro agree i
    rw [and_maskByte_eq_iff _ _ _ (bitsInByte_le len i)]
    intro k bound
    have within : 8 * i + k < len /\ k < 8 := by unfold bitsInByte at bound; omega
    have quotient : (8 * i + k) / 8 = i := by omega
    have remainder : (8 * i + k) % 8 = k := by omega
    have bit := agree (8 * i + k) within.1
    rwa [bitAt, bitAt, quotient, remainder] at bit
  · intro same i bound
    have byte := (and_maskByte_eq_iff _ _ _ (bitsInByte_le len (i / 8))).mp (same (i / 8))
    exact byte (i % 8) (by unfold bitsInByte; omega)

lemma bitsAgree_append {a b c d : List UInt8} (la : a.length = c.length) (len : Nat) :
  BitsAgree (a ++ b) (c ++ d) (8 * a.length + len) ↔ a = c /\ BitsAgree b d len := by
  have shift (i : Nat) : bitsInByte (8 * a.length + len) (a.length + i) = bitsInByte len i := by unfold bitsInByte; omega
  have above (xs ys : List UInt8) (i : Nat) : (xs ++ ys).getD (xs.length + i) 0 = ys.getD i 0 := by
    simp [List.getElem?_append_right]
  rw [bitsAgree_iff_masked, bitsAgree_iff_masked]
  constructor
  · refine fun same => ⟨List.ext_getElem la fun j ha hc => ?_, fun i => ?_⟩
    · have whole : bitsInByte (8 * a.length + len) j = 8 := by unfold bitsInByte; omega
      simpa [whole, List.getElem?_append, ha, hc] using same j
    · have byte := same (a.length + i)
      rwa [shift, above, la, above] at byte
  · rintro ⟨rfl, same⟩ i
    by_cases inside : i < a.length
    · rw [List.getD_append _ _ _ _ inside, List.getD_append _ _ _ _ inside]
    · obtain ⟨j, rfl⟩ := Nat.exists_eq_add_of_le (not_lt.mp inside)
      rw [shift, above, above]
      exact same j

end Ectobase.Shared
