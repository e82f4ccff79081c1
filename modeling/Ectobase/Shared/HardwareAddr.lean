import Ectobase.Shared.AddrText

namespace Ectobase.Shared

open List Option

-- Hardware addresses as Go's net package reads and prints them.

abbrev HardwareAddr := List UInt8

def xtoi2 (s : List Char) (e : Char) : Option UInt8 :=
  match s with
  | a :: b :: rest =>
    if rest.head?.any (· ≠ e) then none
    else do
      let high <- hexValue a
      let low <- hexValue b
      pure (UInt8.ofNat (high * 16 + low))
  | _ => none

def macBytes (sep : Char) : Nat -> List Char -> Option (List UInt8)
  | 0, _ => some []
  | n + 1, s => do
    let b <- xtoi2 s sep
    let rest <- macBytes sep n (s.drop 3)
    pure (b :: rest)

def macWords : Nat -> List Char -> Option (List UInt8)
  | 0, _ => some []
  | n + 1, s => do
    let high <- xtoi2 (s.take 2) (Char.ofNat 0)
    let low <- xtoi2 (s.drop 2) '.'
    let rest <- macWords n (s.drop 5)
    pure (high :: low :: rest)

def macLengths : List Nat := [6, 8, 20]

def parseMAC (text : String) : Option HardwareAddr :=
  let s := text.toList
  if s.length < 14 then none
  else
    let sep := s.getD 2 ' '
    if sep = ':' \/ sep = '-' then
      let n := (s.length + 1) / 3
      if (s.length + 1) % 3 ≠ 0 \/ n ∉ macLengths then none else macBytes sep n s
    else if s.getD 4 ' ' = '.' then
      let n := 2 * (s.length + 1) / 5
      if (s.length + 1) % 5 ≠ 0 \/ n ∉ macLengths then none else macWords (n / 2) s
    else none

def hexByte (b : UInt8) : List Char :=
  [(b.toNat / 16).digitChar, (b.toNat % 16).digitChar]

def HardwareAddr.text (hw : HardwareAddr) : String :=
  String.ofList ([':'].intercalate (hw.map hexByte))

lemma xtoi2_hexByte (b : UInt8) {rest : List Char} {e : Char}
  (ends : rest.head?.any (· ≠ e) = false) : xtoi2 (hexByte b ++ rest) e = some b := by
  have bound := b.toNat_lt
  have value : b.toNat / 16 * 16 + b.toNat % 16 = b.toNat := by omega
  simp only [xtoi2, hexByte, cons_append, nil_append, ends, Bool.false_eq_true, if_false,
    hexValue_digitChar (by omega : b.toNat / 16 < 16),
    hexValue_digitChar (by omega : b.toNat % 16 < 16), Option.pure_def, bind_eq_bind,
    bind_some, value]
  rw [UInt8.ofNat_toNat]

lemma macBytes_text (hw : HardwareAddr) : macBytes ':' hw.length ([':'].intercalate (hw.map hexByte)) = some hw := by
  induction hw with
  | nil => rfl
  | cons b rest ih =>
    cases rest with
    | nil =>
      have read := xtoi2_hexByte b (by rfl : ([] : List Char).head?.any (· ≠ ':') = false)
      rw [append_nil] at read
      simp [macBytes, intercalate, read]
    | cons c rest =>
      rw [map_cons, map_cons, intercalate_cons_cons, <- map_cons, length_cons, macBytes, xtoi2_hexByte b (by simp)]
      have later : (hexByte b ++ ':' :: [':'].intercalate ((c :: rest).map hexByte)).drop 3 =
        [':'].intercalate ((c :: rest).map hexByte) := rfl
      rw [later, ih]
      rfl

variable {hw : HardwareAddr}

lemma macText_length (nonempty : hw ≠ []) : ([':'].intercalate (hw.map hexByte)).length + 1 = 3 * hw.length := by
  induction hw with
  | nil => exact absurd rfl nonempty
  | cons b rest ih =>
    cases rest with
    | nil => simp [intercalate, hexByte]
    | cons c rest =>
      have later := ih (by simp)
      rw [map_cons, map_cons, intercalate_cons_cons, <- map_cons, length_append, length_cons]
      simp only [hexByte, length_cons, length_nil] at later ⊢
      omega

lemma parseMAC_text (length : hw.length ∈ macLengths) : parseMAC hw.text = some hw := by
  have six : 6 <= hw.length := by
    simp only [macLengths, mem_cons, not_mem_nil, or_false] at length
    omega
  have chars := macText_length (ne_nil_of_length_pos (by omega : 0 < hw.length))
  have sep : ([':'].intercalate (hw.map hexByte)).getD 2 ' ' = ':' := by
    obtain ⟨b, more, rfl⟩ := exists_cons_of_length_pos (by omega : 0 < hw.length)
    obtain ⟨c, rest, rfl⟩ := exists_cons_of_length_pos (by simp only [length_cons] at six; omega : 0 < more.length)
    rw [map_cons, map_cons, intercalate_cons_cons]
    rfl
  have count : (([':'].intercalate (hw.map hexByte)).length + 1) / 3 = hw.length := by omega
  have whole : ¬ ((([':'].intercalate (hw.map hexByte)).length + 1) % 3 ≠ 0 \/ hw.length ∉ macLengths) := by
    rintro (partial_ | other)
    · omega
    · exact other length
  simp only [parseMAC, HardwareAddr.text, String.toList_ofList, sep, true_or, if_true, count, if_neg whole, macBytes_text]
  rw [if_neg (by omega)]

lemma macBytes_length {sep : Char} {n : Nat} {s : List Char} (read : macBytes sep n s = some hw) : hw.length = n := by
  induction n generalizing s hw with
  | zero =>
    obtain rfl := some.inj read
    rfl
  | succ n ih =>
    simp only [macBytes, bind_eq_bind, bind_eq_some_iff, Option.pure_def, some.injEq] at read
    obtain ⟨b, -, rest, later, rfl⟩ := read
    rw [length_cons, ih later]

lemma macWords_length {n : Nat} {s : List Char} (read : macWords n s = some hw) : hw.length = 2 * n := by
  induction n generalizing s hw with
  | zero =>
    obtain rfl := some.inj read
    rfl
  | succ n ih =>
    simp only [macWords, bind_eq_bind, bind_eq_some_iff, Option.pure_def, some.injEq] at read
    obtain ⟨high, -, low, -, rest, later, rfl⟩ := read
    rw [length_cons, length_cons, ih later]
    omega

lemma parseMAC_length {s : String} (read : parseMAC s = some hw) : hw.length ∈ macLengths := by
  unfold parseMAC at read
  dsimp only at read
  split at read
  · cases read
  · split at read
    · split at read
      · cases read
      next whole =>
        rw [macBytes_length read]
        exact not_not.mp (not_or.mp whole).2
    · split at read
      · split at read
        · cases read
        next whole =>
          have listed := not_not.mp (not_or.mp whole).2
          rw [macWords_length read]
          have even : ∀ n ∈ macLengths, 2 * (n / 2) = n := by decide
          rwa [even _ listed]
      · cases read

example : (parseMAC "0200.5E10.0001").map HardwareAddr.text = some "02:00:5e:10:00:01" := by
  decide +kernel

end Ectobase.Shared
