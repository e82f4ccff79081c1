import Ectobase.Flowplane.Packet
import Ectobase.Flowplane.Ports

namespace Ectobase.Flowplane

open Shared
open List hiding Vector

def be16 (v : UInt16) : Vector UInt8 2 := #v[(toBeBytes v).1, (toBeBytes v).2]

def copyAt {n m : Nat} (dst : Vector UInt8 n) (rel : Nat) (src : Vector UInt8 m) : Vector UInt8 n :=
  Vector.ofFn fun i => if h : rel <= i.val /\ i.val < rel + m then src[i.val - rel] else dst.get i

def wordAt {n : Nat} (window : Vector UInt8 n) (rel : Nat) : UInt16 :=
  fromBeBytes (window[rel]?.getD 0) (window[rel + 1]?.getD 0)

lemma toNat_fromBeBytes (hi lo : UInt8) : (fromBeBytes hi lo).toNat = hi.toNat * 256 + lo.toNat := by
  have high := hi.toNat_lt
  have low := lo.toNat_lt
  have shifted : (hi.toUInt16 <<< 8).toNat = hi.toNat <<< 8 := by
    rw [UInt16.toNat_shiftLeft]
    exact Nat.mod_eq_of_lt (by simp; omega)
  rw [fromBeBytes, UInt16.toNat_or, shifted, UInt8.toNat_toUInt16,
    <- Nat.shiftLeft_add_eq_or_of_lt (by omega), Nat.shiftLeft_eq]

lemma toNat_toBeBytes (v : UInt16) : (toBeBytes v).1.toNat * 256 + (toBeBytes v).2.toNat = v.toNat := by
  have bound := v.toNat_lt
  have high : (toBeBytes v).1.toNat = v.toNat / 256 := by
    simp only [toBeBytes, UInt16.toNat_toUInt8, UInt16.toNat_shiftRight]
    rw [Nat.shiftRight_eq_div_pow]
    exact Nat.mod_eq_of_lt (by simp; omega)
  have low : (toBeBytes v).2.toNat = v.toNat % 256 := UInt16.toNat_toUInt8 v
  omega

@[simp] lemma fromBeBytes_toBeBytes (v : UInt16) : fromBeBytes (toBeBytes v).1 (toBeBytes v).2 = v := by
  apply UInt16.toNat_inj.mp
  rw [toNat_fromBeBytes, toNat_toBeBytes]

section

variable {n m : Nat} (dst : Vector UInt8 n) (src : Vector UInt8 m) (rel : Nat)

lemma copyAt_inside (i : Nat) (bound : i < n) (inside : rel <= i /\ i < rel + m) :
  (copyAt dst rel src)[i] = src[i - rel] := by
  simp [copyAt, inside]

lemma copyAt_outside (i : Nat) (bound : i < n) (outside : i < rel \/ rel + m <= i) : (copyAt dst rel src)[i] = dst[i] := by
  have no : ¬(rel <= i /\ i < rel + m) := by omega
  simp only [copyAt, Vector.getElem_ofFn, dif_neg no]
  rfl

end

section

variable {n : Nat} (pkt : Pkt) (off : Nat)

lemma readArray_eq_some (v : Vector UInt8 n) :
  pkt.readArray n off = some v ↔ off + n <= pkt.length /\ v.toList = (pkt.drop off).take n := by
  unfold Pkt.readArray
  split
  next within =>
    have bytes : (Vector.ofFn fun i : Fin n => pkt[off + i.val]).toList = (pkt.drop off).take n := by
      apply ext_getElem
      · simp
        omega
      · intro i _ _
        simp
    constructor
    · intro read
      cases read
      exact ⟨within, bytes⟩
    · rintro ⟨_, same⟩
      rw [Vector.toList_inj.mp (bytes.trans same.symm)]
  next short => simp [short]

variable {v : Vector UInt8 n}

lemma readArray_bytes (read : pkt.readArray n off = some v) : v.toList = (pkt.drop off).take n :=
  ((readArray_eq_some pkt off v).mp read).2

lemma readArray_le (read : pkt.readArray n off = some v) : off + n <= pkt.length :=
  ((readArray_eq_some pkt off v).mp read).1

lemma readArray_of_within (within : off + n <= pkt.length) : ∃ v, pkt.readArray n off = some v :=
  Option.isSome_iff_exists.mp ((Pkt.readArray_isSome pkt n off).mpr within)

lemma readArray_byte (read : pkt.readArray n off = some v) (i : Nat) (bound : i < n) : pkt[off + i]? = some v[i] := by
  have bytes := congrArg (·[i]?) (readArray_bytes pkt off read)
  simp only [getElem?_take, if_pos bound, getElem?_drop] at bytes
  rw [<- bytes, Vector.getElem?_toList, Vector.getElem?_eq_getElem bound]

lemma readU8_eq : pkt.readU8 off = pkt[off]? := by
  unfold Pkt.readU8
  cases read : pkt.readArray 1 off with
  | none =>
    have short := (Pkt.readArray_eq_none pkt 1 off).mp read
    rw [Option.map_none, getElem?_eq_none (by omega)]
  | some v =>
    have byte := readArray_byte pkt off read 0 (by decide)
    rw [Option.map_some, <- byte, Nat.add_zero]

def splice (src : Vector UInt8 n) : Pkt := pkt.take off ++ src.toList ++ pkt.drop (off + n)

variable (src : Vector UInt8 n)

lemma writeArray_of_within (within : off + n <= pkt.length) : pkt.writeArray off src = some (splice pkt off src) :=
  if_pos within

lemma writeArray_eq_some (pkt' : Pkt) :
  pkt.writeArray off src = some pkt' ↔ off + n <= pkt.length /\ splice pkt off src = pkt' := by
  unfold Pkt.writeArray
  split
  next within => simp [within, splice]
  next short => simp [short]

lemma length_splice (within : off + n <= pkt.length) : (splice pkt off src).length = pkt.length := by
  simp [splice]
  omega

lemma length_writeArray_getD : ((pkt.writeArray off src).getD pkt).length = pkt.length := by
  cases written : pkt.writeArray off src with
  | none => rfl
  | some q =>
    obtain ⟨within, rfl⟩ := (writeArray_eq_some pkt off src q).mp written
    exact length_splice pkt off src within

lemma getElem?_splice (within : off + n <= pkt.length) (i : Nat) :
  (splice pkt off src)[i]? = if off <= i /\ i < off + n then src[i - off]? else pkt[i]? := by
  unfold splice
  split
  next inside =>
    rw [getElem?_append_left (by simp; omega), getElem?_append_right (by simp; omega)]
    simp [Nat.min_eq_left (show off <= pkt.length by omega)]
  next outside =>
    by_cases before : i < off
    · rw [getElem?_append_left (by simp; omega), getElem?_append_left (by simp; omega)]
      simp [before]
    · rw [getElem?_append_right (by simp; omega)]
      simp only [getElem?_drop, length_append, length_take, Vector.length_toList,
        Nat.min_eq_left (show off <= pkt.length by omega)]
      congr 1
      omega

lemma drop_splice_at (within : off + n <= pkt.length) : (splice pkt off src).drop off = src.toList ++ pkt.drop (off + n) := by
  have front : (pkt.take off).length = off := by
    rw [length_take]
    omega
  rw [splice, append_assoc, drop_append_of_le_length (by omega), drop_of_length_le (by omega)]
  rfl

lemma readArray_splice_apart (within : off + n <= pkt.length) (k start : Nat) (apart : start + k <= off \/ off + n <= start) :
  (splice pkt off src).readArray k start = pkt.readArray k start := by
  have bytes : ((splice pkt off src).drop start).take k = (pkt.drop start).take k := by
    apply ext_getElem?
    intro i
    rw [getElem?_take, getElem?_take]
    split
    next inside =>
      rw [getElem?_drop, getElem?_drop, getElem?_splice pkt off src within, if_neg (by omega)]
    · rfl
  apply Option.ext
  intro v
  rw [readArray_eq_some, readArray_eq_some, length_splice pkt off src within, bytes]

lemma readArray_splice_same (within : off + n <= pkt.length) : (splice pkt off src).readArray n off = some src := by
  rw [readArray_eq_some, length_splice pkt off src within, drop_splice_at pkt off src within]
  refine ⟨within, ?_⟩
  rw [take_append_of_le_length (by simp), take_of_length_le (by simp)]

variable {m rel : Nat} {h : Vector UInt8 n}

lemma splice_copyAt (read : pkt.readArray n off = some h) (field : Vector UInt8 m) (fits : rel + m <= n) :
  splice pkt off (copyAt h rel field) = splice pkt (off + rel) field := by
  have within := readArray_le pkt off read
  have bytes := readArray_bytes pkt off read
  apply ext_getElem?
  intro i
  rw [getElem?_splice pkt off _ within, getElem?_splice pkt (off + rel) field (by omega)]
  by_cases inside : off <= i /\ i < off + n
  · rw [if_pos inside, Vector.getElem?_eq_getElem (by omega)]
    by_cases patched : off + rel <= i /\ i < off + rel + m
    · rw [if_pos patched, copyAt_inside h field rel _ (by omega) (by omega),
        Vector.getElem?_eq_getElem (by omega)]
      congr 2
      omega
    · rw [if_neg patched, copyAt_outside h field rel _ (by omega) (by omega)]
      have here : h.toList[i - off]? = ((pkt.drop off).take n)[i - off]? := by rw [bytes]
      rw [getElem?_eq_getElem (by simp; omega), getElem?_take, if_pos (by omega),
        getElem?_drop, Vector.getElem_toList] at here
      rw [here]
      congr 1
      omega
  · rw [if_neg inside, if_neg (by omega)]

lemma readArray_splice_window (read : pkt.readArray n off = some h) (field : Vector UInt8 m) (fits : rel + m <= n) :
  (splice pkt (off + rel) field).readArray n off = some (copyAt h rel field) := by
  have within := readArray_le pkt off read
  rw [<- splice_copyAt pkt off read field fits, readArray_splice_same pkt off _ within]

lemma splice_splice_cover (within : off + n <= pkt.length) (field : Vector UInt8 m)
  (fits : rel + m <= n) : splice (splice pkt (off + rel) field) off src = splice pkt off src := by
  have inner : off + rel + m <= pkt.length := by omega
  apply ext_getElem?
  intro i
  rw [getElem?_splice _ off src (by rw [length_splice pkt _ field inner]; omega),
    getElem?_splice pkt off src within]
  split
  · rfl
  next outside => rw [getElem?_splice pkt _ field inner, if_neg (by omega)]

lemma readArray_getD_before (k start : Nat) (before : start + k <= off) :
  ((pkt.writeArray off src).getD pkt).readArray k start = pkt.readArray k start := by
  cases written : pkt.writeArray off src with
  | none => rfl
  | some q =>
    obtain ⟨within, rfl⟩ := (writeArray_eq_some pkt off src q).mp written
    exact readArray_splice_apart pkt off src within k start (.inl before)

lemma splice_copyAt_copyAt {m k rel rel' : Nat} {h : Vector UInt8 n}
  (read : pkt.readArray n off = some h) (first : Vector UInt8 m) (second : Vector UInt8 k)
  (fits : rel + m <= n) (fits' : rel' + k <= n) :
  splice pkt off (copyAt (copyAt h rel first) rel' second) = splice (splice pkt (off + rel) first) (off + rel') second := by
  have within := readArray_le pkt off read
  rw [<- splice_copyAt _ off (readArray_splice_window pkt off read first fits) second fits',
    splice_splice_cover pkt off _ within first fits]

end

end Ectobase.Flowplane
