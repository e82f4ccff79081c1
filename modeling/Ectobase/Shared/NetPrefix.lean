import Ectobase.Shared.NetAddr

namespace Ectobase.Shared

-- Address blocks as Go's net/netip compares and prints them; `parsePrefix` reads one from text.

instance (a b : List UInt8) (len : Nat) : Decidable (BitsAgree a b len) :=
  Nat.decidableBallLT len fun i _ => bitAt a i = bitAt b i

def mappedHead : List UInt8 :=
  List.replicate 10 0 ++ [0xff, 0xff]

variable (p : NetPrefix) (a : Addr)

def Addr.bytes : List UInt8 :=
  if a.isV4 then a.as16.drop 12 else a.as16

def Addr.bitLen : Nat :=
  if a.isV4 then 32 else 128

def Addr.is4In6 : Bool :=
  !a.isV4 && a.as16.take 12 == mappedHead

def Addr.unmap : Addr :=
  if a.is4In6 then { a with isV4 := true } else a

structure NetPrefix where
  addr : Addr
  bits : Nat
  deriving DecidableEq, Repr

namespace NetPrefix

def parse (s : String) : Option NetPrefix :=
  (parsePrefix s).map fun p => { addr := p.1, bits := p.2 }

def masked : NetPrefix :=
  let head := if p.addr.isV4 then 96 else 0
  { p with
    addr := { p.addr with
      as16 := p.addr.as16.mapIdx fun i b => b &&& maskByte (bitsInByte (head + p.bits) i) } }

def contains : Bool :=
  p.addr.isV4 == a.isV4 && decide (BitsAgree p.addr.bytes a.bytes p.bits)

def overlaps (q : NetPrefix) : Bool :=
  p.addr.isV4 == q.addr.isV4 && decide (BitsAgree p.addr.bytes q.addr.bytes (min p.bits q.bits))

def within (inner outer : NetPrefix) : Bool :=
  decide (outer.bits <= inner.bits) && outer.contains inner.addr

end NetPrefix

def hexDigits (n : Nat) : String :=
  String.ofList (Nat.toDigits 16 n)

def ipv4Text (bytes : List UInt8) : String :=
  ".".intercalate (bytes.map fun b => toString b.toNat)

def ipv6Groups : List UInt8 -> List Nat
  | high :: low :: rest => (high.toNat * 256 + low.toNat) :: ipv6Groups rest
  | _ => []

def longestZeros (groups : List Nat) : Option (Nat × Nat) :=
  (List.range groups.length).foldl (fun best i =>
      let run := ((groups.drop i).takeWhile (· == 0)).length
      if 2 <= run /\ (best.map Prod.snd).getD 0 < run then some (i, run) else best)
    none

def ipv6Text (groups : List Nat) : String :=
  let text (part : List Nat) := ":".intercalate (part.map hexDigits)
  match longestZeros groups with
  | none => text groups
  | some (start, run) => text (groups.take start) ++ "::" ++ text (groups.drop (start + run))

def Addr.text : String :=
  if a.isV4 then ipv4Text a.bytes
  else if a.is4In6 then "::ffff:" ++ ipv4Text (a.as16.drop 12)
  else ipv6Text (ipv6Groups a.as16)

def NetPrefix.text : String :=
  p.addr.text ++ "/" ++ toString p.bits

example : (NetPrefix.parse "2001:DB8:0:0:1::/80").map NetPrefix.text = some "2001:db8:0:0:1::/80" := by
  decide +kernel

example : (NetPrefix.parse "10.1.2.3/16").map (NetPrefix.text ∘ NetPrefix.masked) = some "10.1.0.0/16" := by
  decide +kernel

namespace NetPrefix

lemma contains_of_within {inner outer : NetPrefix} {a : Addr} (inside : inner.within outer)
  (held : inner.contains a) : outer.contains a := by
  simp only [within, contains, Bool.and_eq_true, decide_eq_true_eq, beq_iff_eq] at inside held ⊢
  obtain ⟨longer, family, agree⟩ := inside
  exact ⟨family.trans held.1, agree.trans (held.2.mono longer)⟩

lemma overlaps_of_contains {p q : NetPrefix} {a : Addr} (inP : p.contains a) (inQ : q.contains a) : p.overlaps q := by
  simp only [contains, overlaps, Bool.and_eq_true, decide_eq_true_eq, beq_iff_eq] at inP inQ ⊢
  refine ⟨inP.1.trans inQ.1.symm, ?_⟩
  exact (inP.2.mono (Nat.min_le_left _ _)).trans (inQ.2.mono (Nat.min_le_right _ _)).symm

lemma masked_bytes_getD (i : Nat) :
  p.masked.addr.bytes.getD i 0 = p.addr.bytes.getD i 0 &&& maskByte (bitsInByte p.bits i) := by
  -- An IPv4 address stands in the last four bytes, its prefix 96 bits further on.
  have shifted : bitsInByte (96 + p.bits) (12 + i) = bitsInByte p.bits i := by
    unfold bitsInByte
    omega
  cases family : p.addr.isV4 with
  | false =>
    cases found : p.addr.as16[i]? <;> simp [masked, Addr.bytes, family, List.getD, found]
  | true =>
    cases found : p.addr.as16[12 + i]? <;> simp [masked, Addr.bytes, family, List.getD, found, shifted]

lemma masked_bytes_agree : BitsAgree p.masked.addr.bytes p.addr.bytes p.bits := by
  rw [bitsAgree_iff_masked]
  intro i
  rw [masked_bytes_getD, UInt8.and_assoc, UInt8.and_self]

lemma masked_contains : p.masked.contains a = p.contains a := by
  have agree : BitsAgree p.masked.addr.bytes a.bytes p.bits ↔ BitsAgree p.addr.bytes a.bytes p.bits :=
    ⟨p.masked_bytes_agree.symm.trans, p.masked_bytes_agree.trans⟩
  exact congrArg (p.addr.isV4 == a.isV4 && ·) (decide_eq_decide.mpr agree)

lemma overlaps_iff {p q : NetPrefix} : p.overlaps q = true ↔ ∃ a, p.contains a = true /\ q.contains a = true := by
  constructor
  · intro overlap
    simp only [overlaps, contains, Bool.and_eq_true, decide_eq_true_eq, beq_iff_eq] at overlap ⊢
    -- The narrower block's own address is in both.
    rcases Nat.le_total p.bits q.bits with wide | narrow
    · rw [Nat.min_eq_left wide] at overlap
      exact ⟨q.addr, overlap, rfl, BitsAgree.refl _ _⟩
    · rw [Nat.min_eq_right narrow] at overlap
      exact ⟨p.addr, ⟨rfl, BitsAgree.refl _ _⟩, overlap.1.symm, overlap.2.symm⟩
  · rintro ⟨a, inP, inQ⟩
    exact overlaps_of_contains inP inQ

end NetPrefix

end Ectobase.Shared
