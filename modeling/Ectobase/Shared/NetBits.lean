import Ectobase.Shared.CidrRange

namespace Ectobase.Shared

open List Option

-- Networks by their leading bits, as net.IPNet compares them: IPv4 in its mapped form is IPv4.

def bitsOf (bytes : List UInt8) (n : Nat) : List Bool := (range n).map (bitAt bytes)

variable {a b : List UInt8} {n m i : Nat}

@[simp] lemma length_bitsOf : (bitsOf a n).length = n := by
  simp [bitsOf]

lemma bitsOf_prefix_iff : bitsOf a n <+: bitsOf b m ↔ n <= m /\ BitsAgree a b n := by
  constructor
  · intro front
    have short : n <= m := by simpa using front.length_le
    refine ⟨short, fun i bound => ?_⟩
    have same := front.getElem (i := i) (by simpa using bound)
    simpa [bitsOf] using same
  · rintro ⟨short, agree⟩
    rw [prefix_iff_eq_take]
    apply ext_getElem
    · simp [short]
    · intro i inside _
      simpa [bitsOf] using agree i (by simpa using inside)

lemma bytes_eq_of_bits (length : a.length = b.length) (agree : BitsAgree a b (8 * a.length)) : a = b := by
  have whole := (bitsAgree_append (b := []) (d := []) length 0).mp
  simp only [append_nil, Nat.add_zero] at whole
  exact (whole agree).1

lemma bitAt_masked {w : Nat} (whole : 8 * (w / 8) = w) (length : a.length = w / 8) (bound : i < w) :
  bitAt ((a.zip (cidrMask n w)).map fun (b, m) => b &&& m) i = (bitAt a i && decide (i < n)) := by
  have byte : i / 8 < w / 8 := by omega
  rw [<- bitAt_cidrMask whole bound]
  have here : ((a.zip (cidrMask n w)).map fun (b, m) => b &&& m).getD (i / 8) 0
      = a.getD (i / 8) 0 &&& (cidrMask n w).getD (i / 8) 0 := by
    rw [getD_eq_getElem _ _ (by simp [length, length_cidrMask, byte]), getD_eq_getElem _ _ (by omega),
      getD_eq_getElem _ _ (by simp [length_cidrMask, byte])]
    simp
  rw [bitAt, bitAt, bitAt, here, UInt8.toBitVec_and, BitVec.getMsbD_and]

structure Network where
  v4 : Bool
  bits : List Bool
  deriving DecidableEq

def Network.width (w : Network) : Nat := if w.v4 then 4 else 16

def Network.holds (w : Network) (ip : List UInt8) : Prop :=
  ((to4 ip).getD ip).length = w.width /\ w.bits <+: bitsOf ((to4 ip).getD ip) (8 * w.width)

instance Network.holds.decidable (w : Network) (ip : List UInt8) : Decidable (w.holds ip) :=
  inferInstanceAs (Decidable (_ /\ _))

def readCIDR (s : String) : Option (Addr × Nat) := match splitAtChar '/' s.toList with
  | addr :: rest =>
    let digits := ['/'].intercalate rest
    if rest = [] then none
    else (parseAddr addr).bind fun a => if digits = [] then none
      else (parseDecimal digits).bind fun n => if n <= a.bitLen then some (a, n) else none
  | [] => none

def networkOf (a : Addr) (n : Nat) : Network :=
  if a.isV4 then ⟨true, bitsOf (a.as16.drop 12) n⟩
  else if a.is4In6 /\ 96 <= n then ⟨true, bitsOf (a.as16.drop 12) (n - 96)⟩
  else ⟨false, bitsOf a.as16 n⟩

lemma parseCIDR_eq (s : String) : parseCIDR s = (readCIDR s).map fun (a, n) =>
    { ip := maskIP a.as16 (cidrMask n a.bitLen), mask := cidrMask n a.bitLen } := by
  unfold parseCIDR readCIDR
  generalize splitAtChar '/' s.toList = fields
  cases fields with
  | nil => rfl
  | cons addr rest =>
    by_cases alone : rest = []
    · simp [alone]
    · simp only [alone, if_false]
      cases parseAddr addr with
      | none => rfl
      | some a =>
        by_cases empty : ['/'].intercalate rest = []
        · simp [empty]
        · simp only [empty, if_false, bind_some]
          cases parseDecimal (['/'].intercalate rest) with
          | none => rfl
          | some n =>
            simp only [bind_some, Addr.bitLen]
            split_ifs <;> simp_all

lemma readCIDR_spec {s : String} {a : Addr} (read : readCIDR s = some (a, n)) : a.Valid /\ n <= a.bitLen := by
  unfold readCIDR at read
  split at read
  · rw [ite_none_left_eq_some, bind_eq_some_iff] at read
    obtain ⟨-, a', parsed, read⟩ := read
    rw [ite_none_left_eq_some, bind_eq_some_iff] at read
    obtain ⟨-, n', -, read⟩ := read
    obtain ⟨fits, same⟩ := ite_none_right_eq_some.mp read
    cases same
    exact ⟨parseAddr_valid parsed, fits⟩
  · cases read

-- A network's number and mask are those of its bits.
structure Keyed (key : List UInt8 × List UInt8) (w : Network) : Prop where
  length : key.1.length = w.width
  short : w.bits.length <= 8 * w.width
  mask : key.2 = cidrMask w.bits.length (8 * w.width)
  bits : ∀ i < 8 * w.width, bitAt key.1 i = w.bits.getD i false

lemma Keyed.eq_iff {key key' : List UInt8 × List UInt8} {w w' : Network} (keyed : Keyed key w) (keyed' : Keyed key' w') :
  key = key' ↔ w = w' := by
  constructor
  · rintro rfl
    have width : w.width = w'.width := keyed.length.symm.trans keyed'.length
    have family : w.v4 = w'.v4 := by
      unfold Network.width at width
      cases family : w.v4 <;> cases family' : w'.v4 <;> simp [family, family'] at width ⊢
    have count : w.bits.length = w'.bits.length := by
      have size {x : Network} (keyed : Keyed key x) : maskSize key.2 = x.bits.length := by
        have isWidth : 8 * x.width = if x.v4 then 32 else 128 := by
          unfold Network.width
          cases x.v4 <;> rfl
        have short := keyed.short
        rw [isWidth] at short
        rw [keyed.mask, isWidth, maskSize_cidrMask short]
      rw [<- size keyed, size keyed']
    have bits : w.bits = w'.bits := by
      apply ext_getElem count
      intro i inside inside'
      have here := (keyed.bits i (inside.trans_le keyed.short)).symm.trans
        (keyed'.bits i (inside'.trans_le keyed'.short))
      simpa [inside, inside'] using here
    cases w
    cases w'
    simp_all
  · rintro rfl
    refine Prod.ext (bytes_eq_of_bits (keyed.length.trans keyed'.length.symm) ?_) (keyed.mask.trans keyed'.mask.symm)
    intro i bound
    rw [keyed.length] at bound
    rw [keyed.bits i bound, keyed'.bits i bound]

lemma Keyed.contains_iff {key : List UInt8 × List UInt8} {w : Network} {net : IPNet} (keyed : Keyed key w)
  (number : networkNumberAndMask net = some key) (ip : List UInt8) : net.contains ip = true ↔ w.holds ip := by
  have front (x : List UInt8) : w.bits <+: bitsOf x (8 * w.width) ↔ BitsAgree key.1 x w.bits.length := by
    have own : w.bits = bitsOf key.1 w.bits.length := by
      apply ext_getElem (by simp)
      intro i inside _
      have here := keyed.bits i (inside.trans_le keyed.short)
      simpa [bitsOf, inside] using here.symm
    rw [own, bitsOf_prefix_iff]
    simp [keyed.short]
  simp only [IPNet.contains, number, Bool.and_eq_true, decide_eq_true_eq, Network.holds, List.all_eq_true, mem_range, beq_iff_eq,
    keyed.length, front, bitsAgree_iff_masked]
  refine and_congr_right fun length => ?_
  have mask (i : Nat) (inside : i < w.width) : key.2.getD i 0 = maskByte (bitsInByte w.bits.length i) := by
    rw [keyed.mask, getD_eq_getElem _ _ (by rw [length_cidrMask]; omega)]
    simp [cidrMask]
  rw [length]
  constructor
  · intro same i
    by_cases inside : i < w.width
    · rw [<- mask i inside]
      exact same i inside
    · rw [getD_eq_default _ _ (by rw [keyed.length]; omega), getD_eq_default _ _ (by rw [length]; omega)]
  · intro same i inside
    rw [mask i inside]
    exact same i

lemma keyed_masked {x : List UInt8} {w : Network} (length : x.length = w.width) (short : n <= 8 * w.width)
  (bits : w.bits = bitsOf x n) :
  Keyed ((x.zip (cidrMask n (8 * w.width))).map fun (b, m) => b &&& m, cidrMask n (8 * w.width)) w := by
  have count : w.bits.length = n := by simp [bits]
  have whole : 8 * (8 * w.width / 8) = 8 * w.width := by omega
  refine ⟨by simp [length, length_cidrMask], count ▸ short, by rw [count], fun i bound => ?_⟩
  rw [bitAt_masked whole (by omega) bound, bits]
  by_cases inside : i < n <;> simp [bitsOf, inside]

lemma take_eq_mapped (length : a.length = 16) : a.take 12 = mappedHead ↔ BitsAgree a mappedHead 96 := by
  have split := bitsAgree_append (a := a.take 12) (b := a.drop 12) (c := mappedHead) (d := []) (by simp [length, mappedHead]) 0
  simpa [length, BitsAgree] using split.symm

lemma take_masked_eq_mapped (length : a.length = 16) (fits : n <= 128) :
  ((a.zip (cidrMask n 128)).map fun (b, m) => b &&& m).take 12 = mappedHead ↔ a.take 12 = mappedHead /\ 96 <= n := by
  have masked {i : Nat} (bound : i < 128) := bitAt_masked (n := n) (a := a) (w := 128) rfl length bound
  rw [take_eq_mapped (by simp [length, length_cidrMask]), take_eq_mapped length]
  constructor
  · intro agree
    have last := agree 95 (by decide)
    rw [masked (by decide)] at last
    have enough : 96 <= n := by
      by_contra few
      have high : bitAt mappedHead 95 = true := by decide
      simp [high, show ¬ 95 < n by omega] at last
    refine ⟨fun i bound => ?_, enough⟩
    rw [<- agree i bound, masked (by omega), decide_eq_true (by omega), Bool.and_true]
  · rintro ⟨agree, enough⟩ i bound
    rw [masked (by omega), decide_eq_true (by omega), Bool.and_true, agree i bound]

lemma drop_cidrMask (n : Nat) : (cidrMask n 128).drop 12 = cidrMask (n - 96) 32 := by
  apply ext_getElem (by simp [length_cidrMask])
  intro i _ _
  have here : bitsInByte n (12 + i) = bitsInByte (n - 96) i := by
    unfold bitsInByte
    omega
  simp [cidrMask, here]

lemma to4_of_long (long : a.length = 16) : to4 a = if a.take 12 = mappedHead then some (a.drop 12) else none := by
  have other : ¬ a.length = 4 := by omega
  rw [to4, if_neg other]
  exact if_congr (and_iff_right long) rfl rfl

lemma number_of_long {mask : List UInt8} (long : a.length = 16) (long' : mask.length = 16) :
  networkNumberAndMask ⟨a, mask⟩ = some (if a.take 12 = mappedHead then (a.drop 12, mask.drop 12) else (a, mask)) := by
  simp only [networkNumberAndMask, to4_of_long long]
  rw [if_neg (by omega), if_pos long']
  by_cases mapped : a.take 12 = mappedHead
  · simp [mapped, long]
  · simp [mapped, long]

lemma parseCIDR_keyed {s : String} {a : Addr} (read : readCIDR s = some (a, n)) : ∃ net key, parseCIDR s = some net /\
    networkNumberAndMask net = some key /\ Keyed key (networkOf a n) := by
  obtain ⟨valid, fits⟩ := readCIDR_spec read
  have sixteen := valid.length
  have four : (a.as16.drop 12).length = 4 := by simp [sixteen]
  rw [parseCIDR_eq, read, map_some]
  unfold networkOf
  cases family : a.isV4 with
  | true =>
    have front : a.as16.take 12 = replicate 10 0 ++ [0xff, 0xff] := valid.mapped family
    simp only [Addr.bitLen, family, if_true] at fits ⊢
    refine ⟨_, _, rfl, ?_, keyed_masked (x := a.as16.drop 12) four fits rfl⟩
    simp [networkNumberAndMask, maskIP, length_cidrMask, sixteen, front, to4, Network.width]
  | false =>
    simp only [Addr.bitLen, family, Bool.false_eq_true, if_false] at fits ⊢
    have ip : maskIP a.as16 (cidrMask n 128) = (a.as16.zip (cidrMask n 128)).map fun (b, m) => b &&& m := by
      simp [maskIP, length_cidrMask]
    have mapped : a.is4In6 /\ 96 <= n ↔ ((a.as16.zip (cidrMask n 128)).map fun (b, m) => b &&& m).take 12 = mappedHead := by
      rw [take_masked_eq_mapped sixteen fits]
      simp [Addr.is4In6, family]
    rw [ip]
    refine ⟨_, _, rfl, number_of_long (by simp [sixteen, length_cidrMask]) (length_cidrMask _ _), ?_⟩
    by_cases inner : a.is4In6 /\ 96 <= n
    · have keyed := keyed_masked (w := ⟨true, bitsOf (a.as16.drop 12) (n - 96)⟩) four (n := n - 96)
        (by simp only [Network.width, if_true]; omega) rfl
      rw [if_pos inner, if_pos (mapped.mp inner), drop_cidrMask]
      simpa [zip, drop_zipWith, drop_cidrMask, Network.width] using keyed
    · rw [if_neg inner, if_neg fun front => inner (mapped.mpr front)]
      exact keyed_masked (w := ⟨false, bitsOf a.as16 n⟩) sixteen fits rfl

def readNetwork (s : String) : Option Network := (readCIDR s).map fun (a, n) => networkOf a n

lemma parseCIDR_network (s : String) : parseCIDR s = none /\ readNetwork s = none \/
    ∃ net key w, parseCIDR s = some net /\ readNetwork s = some w /\ networkNumberAndMask net = some key /\ Keyed key w := by
  cases read : readCIDR s with
  | none => exact .inl ⟨by simp [parseCIDR_eq, read], by simp [readNetwork, read]⟩
  | some x =>
    obtain ⟨net, key, parsed, number, keyed⟩ := parseCIDR_keyed read
    exact .inr ⟨net, key, _, parsed, by rw [readNetwork, read]; rfl, number, keyed⟩

-- One of the networks is around the block, or both its halves are covered.
def tiled (es : List (List Bool)) : Nat -> List Bool -> Bool
  | 0, w => es.any (·.isPrefixOf w)
  | left + 1, w => es.any (·.isPrefixOf w) || tiled es left (w ++ [false]) && tiled es left (w ++ [true])

lemma tiled_iff (es : List (List Bool)) (left : Nat) (w : List Bool) : tiled es left w = true ↔
    ∀ x : List Bool, x.length = w.length + left -> w <+: x -> ∃ e ∈ es, e <+: x := by
  induction left generalizing w with
  | zero =>
    simp only [tiled, List.any_eq_true, isPrefixOf_iff_prefix]
    constructor
    · rintro ⟨e, listed, around⟩ x _ front
      exact ⟨e, listed, around.trans front⟩
    · exact fun covered => covered w rfl (prefix_refl w)
  | succ left ih =>
    simp only [tiled, Bool.or_eq_true, Bool.and_eq_true, List.any_eq_true, isPrefixOf_iff_prefix, ih]
    constructor
    · rintro (⟨e, listed, around⟩ | ⟨low, high⟩) x long front
      · exact ⟨e, listed, around.trans front⟩
      · obtain ⟨rest, rfl⟩ := front
        cases rest with
        | nil => simp at long
        | cons b rest =>
          have within : w ++ [b] <+: w ++ b :: rest := ⟨rest, by simp⟩
          have size : (w ++ b :: rest).length = (w ++ [b]).length + left := by simp at long ⊢; omega
          cases b with
          | false => exact low _ size within
          | true => exact high _ size within
    · intro covered
      have half (b : Bool) (x : List Bool) (long : x.length = (w ++ [b]).length + left) (front : w ++ [b] <+: x) :=
        covered x (by simp at long; omega) ((prefix_append w [b]).trans front)
      exact .inr ⟨half false, half true⟩

lemma exists_bytes {k : Nat} {x : List Bool} (long : x.length = 8 * k) :
  ∃ bytes : List UInt8, bytes.length = k /\ bitsOf bytes (8 * k) = x := by
  refine ⟨(range k).map fun i => ⟨BitVec.ofBoolListBE (ofFn fun j : Fin 8 => x.getD (8 * i + j) false)⟩, by simp, ?_⟩
  apply ext_getElem (by simp [long])
  intro i _ inside
  have byte : i / 8 < k := by omega
  have bit : i % 8 < 8 := by omega
  have place : 8 * (i / 8) + i % 8 = i := by omega
  simp only [bitsOf, getElem_map, getElem_range, bitAt, getD_eq_getElem?_getD, getElem?_map, getElem?_range byte, map_some,
    Option.getD_some]
  refine BitVec.getMsbD_ofBoolListBE.trans ?_
  rw [getD_eq_getElem _ _ (by simpa using bit), List.getElem_ofFn]
  simp only [place, getD_eq_getElem _ _ inside]

def mappedBits : List Bool := bitsOf mappedHead 96

lemma mappedBits_prefix {bytes : List UInt8} (long : bytes.length = 16) :
  mappedBits <+: bitsOf bytes 128 ↔ bytes.take 12 = mappedHead := by
  rw [mappedBits, bitsOf_prefix_iff, take_eq_mapped long]
  exact ⟨fun agree => agree.2.symm, fun agree => ⟨by decide, agree.symm⟩⟩

lemma to4_self_iff {w : Network} (length : a.length = w.width) :
  (to4 a).getD a = a ↔ ¬ (w.v4 = false /\ mappedBits <+: bitsOf a (8 * w.width)) := by
  unfold Network.width at length ⊢
  cases family : w.v4 with
  | true =>
    simp only [family, if_true] at length
    simp [to4, length]
  | false =>
    simp only [family, Bool.false_eq_true, if_false] at length ⊢
    simp only [true_and, mappedBits_prefix length, to4_of_long length]
    split
    next mapped =>
      have shorter : a.drop 12 ≠ a := fun same => by simpa [length] using congrArg List.length same
      simpa [mapped] using shorter
    next other => simp [other]

lemma to4_idem (ip : List UInt8) : (to4 ((to4 ip).getD ip)).getD ((to4 ip).getD ip) = (to4 ip).getD ip := by
  unfold to4
  split_ifs <;> simp_all

-- The addresses of a network lie in others if and only if these tile it; no IPv6 address is in the mapped block.
lemma covered_iff (w : Network) (short : w.bits.length <= 8 * w.width) (ws : List Network) :
  (∀ ip, w.holds ip -> ∃ e ∈ ws, e.holds ip) ↔ tiled ((if w.v4 then [] else [mappedBits]) ++
    (ws.filter (·.v4 = w.v4)).map Network.bits) (8 * w.width - w.bits.length) w.bits = true := by
  have same {e : Network} : e.width = w.width ↔ e.v4 = w.v4 := by
    unfold Network.width
    cases e.v4 <;> cases w.v4 <;> simp
  rw [tiled_iff, Nat.add_sub_cancel' short]
  constructor
  · intro covered x long front
    obtain ⟨bytes, length, rfl⟩ := exists_bytes long
    by_cases mapped : w.v4 = false /\ mappedBits <+: bitsOf bytes (8 * w.width)
    · exact ⟨mappedBits, by simp [mapped.1], mapped.2⟩
    · have self := (to4_self_iff length).mpr mapped
      obtain ⟨e, listed, family, around⟩ := covered bytes ⟨by rw [self, length], by rwa [self]⟩
      rw [self] at family around
      have width : e.width = w.width := family.symm.trans length
      have kept : e ∈ ws.filter (·.v4 = w.v4) := mem_filter.mpr ⟨listed, by simpa using same.mp width⟩
      exact ⟨e.bits, mem_append_right _ (mem_map_of_mem kept), width ▸ around⟩
  · rintro covered ip ⟨length, front⟩
    obtain ⟨bits, listed, around⟩ := covered _ (by simp) front
    rcases mem_append.mp listed with mapped | listed
    · have v6 : w.v4 = false /\ bits = mappedBits := by
        cases family : w.v4 <;> simp_all
      exact absurd ⟨v6.1, v6.2 ▸ around⟩ ((to4_self_iff length).mp (to4_idem ip))
    · obtain ⟨e, kept, rfl⟩ := mem_map.mp listed
      obtain ⟨listed, family⟩ := mem_filter.mp kept
      have width := same.mpr (of_decide_eq_true family)
      exact ⟨e, listed, by rw [length, width], by rwa [width]⟩

end Ectobase.Shared
