import Ectobase.Flowplane.FwClassify

namespace Ectobase.Flowplane

open Shared List

variable {a b : List UInt8}

lemma take_eq_iff_getD (size : a.length = b.length) (k : Nat) :
  a.take k = b.take k ↔ ∀ i, i < k -> a.getD i 0 = b.getD i 0 := by
  constructor
  · intro same i bound
    have byte := congrArg (fun bytes => bytes[i]?) same
    simp only [getElem?_take, if_pos bound] at byte
    rw [getD_eq_getElem?_getD, getD_eq_getElem?_getD, byte]
  · intro same
    apply ext_getElem (by simp [size])
    intro i ha hb
    simp only [length_take] at ha hb
    have byte := same i (by omega)
    rw [getD_eq_getElem _ _ (by omega), getD_eq_getElem _ _ (by omega)] at byte
    simpa using byte

lemma bitsAgree_iff_take (size : a.length = b.length) (len : Nat) : BitsAgree a b len ↔ a.take (len / 8) = b.take (len / 8) /\
    a.getD (len / 8) 0 &&& maskByte (len % 8) = b.getD (len / 8) 0 &&& maskByte (len % 8) := by
  rw [bitsAgree_iff_masked, take_eq_iff_getD size]
  constructor
  · intro bytes
    constructor
    · intro i bound
      have whole : bitsInByte len i = 8 := by unfold bitsInByte; omega
      simpa [whole] using bytes i
    · have rest : bitsInByte len (len / 8) = len % 8 := by unfold bitsInByte; omega
      simpa [rest] using bytes (len / 8)
  · rintro ⟨whole, rest⟩ i
    rcases Nat.lt_trichotomy i (len / 8) with below | rfl | above
    · rw [whole i below]
    · rwa [show bitsInByte len (len / 8) = len % 8 by unfold bitsInByte; omega]
    · rw [show bitsInByte len i = 0 by unfold bitsInByte; omega]
      simp

lemma bitsMatch_iff (size : a.length = b.length) (len : Nat) : bitsMatch a b len = true ↔ BitsAgree a b len := by
  rw [bitsAgree_iff_take size]
  have bound : len % 8 <= 8 := by omega
  by_cases whole : a.take (len / 8) = b.take (len / 8)
  · by_cases rest : len % 8 = 0
    · simp [bitsMatch, whole, rest]
    · simp [bitsMatch, whole, rest, xor_and_maskByte_eq_zero_iff _ _ _ bound]
  · simp [bitsMatch, whole]

lemma prefixMatch_iff (size : a.length = b.length) (len : Nat) : prefixMatch a b len = true ↔ BitsAgree a b len := by
  rw [bitsAgree_iff_take size]
  by_cases whole : a.take (len / 8) = b.take (len / 8)
  · by_cases rest : len % 8 = 0
    · simp [prefixMatch, whole, rest]
    · simp [prefixMatch, whole, rest]
  · simp [prefixMatch, whole]

lemma toLeBytes_injective {a b : UInt32} (same : toLeBytes a = toLeBytes b) : a = b := by
  simp only [toLeBytes, cons.injEq, and_true] at same
  obtain ⟨b0, b1, b2, b3⟩ := same
  apply UInt32.toNat_inj.mp
  have n0 := congrArg UInt8.toNat b0
  have n1 := congrArg UInt8.toNat b1
  have n2 := congrArg UInt8.toNat b2
  have n3 := congrArg UInt8.toNat b3
  simp [Nat.shiftRight_eq_div_pow] at n0 n1 n2 n3
  have ha := a.toNat_lt
  have hb := b.toNat_lt
  omega

variable (key : FwPolKey) (x y : Entry)

def FwPolKey.suffix : List UInt8 := [key.proto, key.port.1, key.port.2]

lemma FwPolKey.bitsAgree_bytes (a b : FwPolKey) (m : Nat) :
  BitsAgree a.bytes b.bytes (32 + m) ↔ a.cls = b.cls /\ BitsAgree a.suffix b.suffix m := by
  have split := bitsAgree_append (a := toLeBytes a.cls) (b := a.suffix) (c := toLeBytes b.cls) (d := b.suffix) rfl m
  rw [show 8 * (toLeBytes a.cls).length + m = 32 + m from rfl] at split
  rw [show a.bytes = toLeBytes a.cls ++ a.suffix from rfl, show b.bytes = toLeBytes b.cls ++ b.suffix from rfl, split]
  constructor
  · exact fun ⟨cls, rest⟩ => ⟨toLeBytes_injective cls, rest⟩
  · exact fun ⟨cls, rest⟩ => ⟨by rw [cls], rest⟩

def Entry.Hits (e : Entry) : Prop := BitsAgree e.bytes key.bytes e.plen

lemma Entry.covers_iff : x.covers y = true ↔ x.plen <= y.plen /\ BitsAgree x.bytes y.bytes x.plen := by
  rw [Entry.covers, Bool.and_eq_true, decide_eq_true_eq, bitsMatch_iff (a := x.bytes) (b := y.bytes) rfl]

lemma Entry.covers_refl : x.covers x = true :=
  (Entry.covers_iff x x).mpr ⟨le_refl _, BitsAgree.refl _ _⟩

lemma Entry.covers_trans (z : Entry) (left : x.covers y = true) (right : y.covers z = true) : x.covers z = true := by
  rw [Entry.covers_iff] at left right ⊢
  exact ⟨left.1.trans right.1, left.2.trans (right.2.mono left.1)⟩

lemma Entry.covers_upward (wider : x.covers y = true) (hit : y.Hits key) : x.Hits key := by
  rw [Entry.covers_iff] at wider
  exact wider.2.trans (BitsAgree.mono hit wider.1)

lemma Entry.covers_laminar (hx : x.Hits key) (hy : y.Hits key) (order : x.plen <= y.plen) : x.covers y = true :=
  (Entry.covers_iff x y).mpr ⟨order, BitsAgree.trans hx (BitsAgree.symm (BitsAgree.mono hy order))⟩

end Ectobase.Flowplane
