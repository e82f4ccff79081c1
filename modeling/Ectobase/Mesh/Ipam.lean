import Ectobase.Shared.HardwareAddr
import Mathlib.Data.List.Basic

namespace Ectobase.Mesh

open Shared List Option

def lastAddr (p : NetPrefix) : Addr := { p.masked.addr with
  as16 := p.masked.addr.as16.mapIdx fun i b => b ||| ~~~maskByte (bitsInByte (96 + p.bits) i) }

def reservedFor (p : NetPrefix) : List ZonedAddr := let network := p.masked.addr
  if network.isV4 then [{ addr := network, zone := [] }, { addr := lastAddr p.masked, zone := [] }]
  else [{ addr := network, zone := [] }]

def inPrefix (p : NetPrefix) (a : ZonedAddr) : Bool := decide (a.zone = []) && p.contains a.addr

def increment : List UInt8 -> Option (List UInt8)
  | [] => none
  | b :: rest =>
    match increment rest with
    | some rest' => some (b :: rest')
    | none => if b = 255 then none else some ((b + 1) :: rest.map fun _ => 0)

def nextAddr (a : Addr) : Option Addr := let head := if a.isV4 then 12 else 0
  (increment (a.as16.drop head)).map fun bytes => { a with as16 := a.as16.take head ++ bytes }

def freeFrom (p : NetPrefix) (skip : List ZonedAddr) : Nat -> Addr -> Option Addr
  | 0, _ => none
  | fuel + 1, a =>
    if p.contains a then
      if { addr := a, zone := [] } ∈ skip then (nextAddr a).bind (freeFrom p skip fuel)
      else some a
    else none

def lowestFree (p : NetPrefix) (used reserved : List ZonedAddr) : Option Addr :=
  freeFrom p.masked (used ++ reserved) ((used ++ reserved).length + 1) p.masked.addr

def fnv1a (bytes : List UInt8) : UInt64 :=
  bytes.foldl (fun hash b => (hash ^^^ b.toUInt64) * 1099511628211) 14695981039346656037

def bigEndian (n : UInt64) : List UInt8 :=
  [56, 48, 40, 32, 24, 16, 8, 0].map fun shift : UInt64 => (n >>> shift).toUInt8

def deriveMAC (seed : String) (attempt : Nat) : HardwareAddr :=
  let sum := fnv1a (seed.toUTF8.data.toList ++ 0 :: bigEndian (UInt64.ofNat attempt))
  0x02 :: [32, 24, 16, 8, 0].map fun shift : UInt64 => (sum >>> shift).toUInt8

def maxMACAttempts : Nat := 2 ^ 12

def lowestFreeMAC (seed : String) (used : List String) : Option String :=
  ((range maxMACAttempts).map fun attempt => (deriveMAC seed attempt).text).find? fun m => m ∉ used

lemma lowestFreeMAC_spec {seed m : String} {used : List String} (found : lowestFreeMAC seed used = some m) :
  m ∉ used /\ ∃ hw : HardwareAddr, m = hw.text /\ parseMAC m = some hw := by
  constructor
  · simpa using find?_some found
  · obtain ⟨attempt, -, rfl⟩ := List.mem_map.mp (List.mem_of_find?_eq_some found)
    exact ⟨_, rfl, parseMAC_text (by simp [deriveMAC, macLengths])⟩

section

variable {p : NetPrefix} {skip : List ZonedAddr}

lemma increment_length {bytes bytes' : List UInt8} (next : increment bytes = some bytes') : bytes'.length = bytes.length := by
  induction bytes generalizing bytes' with
  | nil => cases next
  | cons b rest ih =>
    unfold increment at next
    split at next
    next rest' later =>
      obtain rfl := some.inj next
      simp [ih later]
    · split at next
      · cases next
      · obtain rfl := some.inj next
        simp

lemma nextAddr_valid {a b : Addr} (valid : a.Valid) (next : nextAddr a = some b) : b.Valid := by
  obtain ⟨bytes, incremented, rfl⟩ := map_eq_some_iff.mp next
  have length := increment_length incremented
  have sixteen := valid.length
  constructor
  · rw [length_append, length, length_take, length_drop]
    omega
  · intro v4
    have head : (if a.isV4 then 12 else 0) = 12 := if_pos v4
    have twelve : (a.as16.take 12).length = 12 := by simp [sixteen]
    simp only [head]
    rw [take_append_of_le_length (by omega), take_take]
    exact valid.mapped v4

lemma freeFrom_spec {fuel : Nat} {a b : Addr} (valid : a.Valid) (found : freeFrom p skip fuel a = some b) :
  b.Valid /\ p.contains b = true /\ { addr := b, zone := [] } ∉ skip := by
  induction fuel generalizing a with
  | zero => cases found
  | succ fuel ih =>
    unfold freeFrom at found
    split at found
    next inside =>
      split at found
      · obtain ⟨next, step, later⟩ := bind_eq_some_iff.mp found
        exact ih (nextAddr_valid valid step) later
      next free => exact some.inj found ▸ ⟨valid, inside, free⟩
    · cases found

lemma masked_valid {p : NetPrefix} (valid : p.addr.Valid) : p.masked.addr.Valid := by
  constructor
  · simp [NetPrefix.masked, valid.length]
  · intro v4
    have v4' : p.addr.isV4 = true := v4
    rw [<- valid.mapped v4']
    apply ext_getElem
    · simp [NetPrefix.masked]
    · intro i _ bound
      have early : i < 12 := by
        rw [length_take] at bound
        omega
      have whole : bitsInByte (96 + p.bits) i = 8 := by
        unfold bitsInByte
        omega
      simp [NetPrefix.masked, v4', whole]

lemma lowestFree_spec {p : NetPrefix} (valid : p.addr.Valid) {used reserved : List ZonedAddr}
  {a : Addr} (found : lowestFree p used reserved = some a) :
  a.Valid /\ p.contains a = true /\ { addr := a, zone := [] } ∉ used /\ { addr := a, zone := [] } ∉ reserved := by
  obtain ⟨ok, inside, free⟩ := freeFrom_spec (masked_valid valid) found
  rw [NetPrefix.masked_contains] at inside
  exact ⟨ok, inside, fun taken => free (mem_append_left _ taken), fun taken => free (mem_append_right _ taken)⟩

end

section

def bytesValue : List UInt8 -> Nat
  | [] => 0
  | b :: rest => b.toNat * 256 ^ rest.length + bytesValue rest

lemma bytesValue_zeros (bytes : List UInt8) : bytesValue (bytes.map fun _ => 0) = 0 := by
  induction bytes with
  | nil => rfl
  | cons b rest ih =>
    rw [map_cons, bytesValue, ih]
    simp

lemma increment_value (bytes : List UInt8) : match increment bytes with
  | some bytes' => bytesValue bytes' = bytesValue bytes + 1
  | none => bytesValue bytes + 1 = 256 ^ bytes.length := by
  induction bytes with
  | nil => rfl
  | cons b rest ih =>
    unfold increment
    cases later : increment rest with
    | some rest' =>
      rw [later] at ih
      simp only [bytesValue, increment_length later] at ih ⊢
      omega
    | none =>
      rw [later] at ih
      by_cases last : b = 255
      · subst last
        simp only [if_true, bytesValue, length_cons, pow_succ]
        have full : (255 : UInt8).toNat = 255 := rfl
        rw [full]
        omega
      · rw [if_neg last]
        have bound := b.toNat_lt
        have apart : b.toNat ≠ 255 := fun same => last (UInt8.toNat_inj.mp same)
        have up : (b + 1).toNat = b.toNat + 1 := by
          rw [UInt8.toNat_add]
          have one : (1 : UInt8).toNat = 1 := rfl
          rw [one]
          omega
        simp only [bytesValue, length_map, bytesValue_zeros, up, Nat.succ_mul]
        omega

def addrValue (a : Addr) : Nat := bytesValue (a.as16.drop (if a.isV4 then 12 else 0))

lemma nextAddr_value {a b : Addr} (valid : a.Valid) (next : nextAddr a = some b) : addrValue b = addrValue a + 1 := by
  obtain ⟨bytes, incremented, rfl⟩ := map_eq_some_iff.mp next
  have value := increment_value (a.as16.drop (if a.isV4 then 12 else 0))
  rw [incremented] at value
  have front : (a.as16.take (if a.isV4 then 12 else 0)).length = if a.isV4 then 12 else 0 := by
    rw [length_take, valid.length]
    split <;> rfl
  rw [addrValue, addrValue, <- value]
  exact congrArg bytesValue (drop_left' front)

variable {p : NetPrefix} {skip : List ZonedAddr}

lemma ahead_lt {a b : Addr} (valid : a.Valid) (next : nextAddr a = some b) (taken : { addr := a, zone := [] } ∈ skip) :
  (skip.filter fun s => addrValue b <= addrValue s.addr).length <
    (skip.filter fun s => addrValue a <= addrValue s.addr).length := by
  have value := nextAddr_value valid next
  have sub : (skip.filter fun s => addrValue b <= addrValue s.addr).Sublist
    (skip.filter fun s => addrValue a <= addrValue s.addr) :=
    monotone_filter_right skip fun s later => by
      simp only [decide_eq_true_eq] at later ⊢
      omega
  refine lt_of_le_of_ne sub.length_le fun same => ?_
  have here : { addr := a, zone := [] } ∈ skip.filter fun s => addrValue a <= addrValue s.addr :=
    mem_filter.mpr ⟨taken, by simp⟩
  rw [<- sub.eq_of_length same, mem_filter, decide_eq_true_eq] at here
  have := here.2
  dsimp only at this
  omega

lemma freeFrom_fuel {fuel : Nat} {a : Addr} (valid : a.Valid)
  (enough : (skip.filter fun s => addrValue a <= addrValue s.addr).length < fuel) (extra : Nat) :
  freeFrom p skip (fuel + extra) a = freeFrom p skip fuel a := by
  induction fuel generalizing a with
  | zero => exact absurd enough (Nat.not_lt_zero _)
  | succ fuel ih =>
    rw [Nat.succ_add, freeFrom, freeFrom]
    split
    · split
      next taken =>
        cases step : nextAddr a with
        | none => rfl
        | some next =>
          have shorter := ahead_lt valid step taken
          exact ih (nextAddr_valid valid step) (by omega)
      · rfl
    · rfl

lemma lowestFree_fuel {p : NetPrefix} (valid : p.addr.Valid) (used reserved : List ZonedAddr) (extra : Nat) :
  freeFrom p.masked (used ++ reserved) ((used ++ reserved).length + 1 + extra) p.masked.addr = lowestFree p used reserved :=
  freeFrom_fuel (masked_valid valid) (Nat.lt_succ_of_le (length_filter_le _ _)) extra

end

end Ectobase.Mesh
