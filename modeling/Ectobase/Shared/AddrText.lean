import Ectobase.Shared.NetPrefix
import Mathlib.Data.List.TakeWhile

namespace Ectobase.Shared

open List Option

-- An address printed and read again is the same address.

variable {c : Char} {s : List Char} {bytes : List UInt8} {n : Nat} {groups : List Nat}

lemma splitAtChar_ne_nil (c : Char) (s : List Char) : splitAtChar c s ≠ [] := by
  induction s with
  | nil => simp [splitAtChar]
  | cons x xs ih =>
    unfold splitAtChar
    split
    next none => exact absurd none ih
    · split <;> simp

lemma intercalate_splitAtChar (c : Char) (s : List Char) : [c].intercalate (splitAtChar c s) = s := by
  induction s with
  | nil => rfl
  | cons x s ih =>
    obtain ⟨field, fields, found⟩ := exists_cons_of_ne_nil (splitAtChar_ne_nil c s)
    rw [found] at ih
    by_cases here : x = c
    · simp [splitAtChar, found, here, ih]
    · have grows : [c].intercalate ((x :: field) :: fields) = x :: [c].intercalate (field :: fields) := by
        cases fields with
        | nil => simp [intercalate]
        | cons => simp
      simp [splitAtChar, found, here, grows, ih]

lemma splitAtChar_of_not_mem (absent : c ∉ s) : splitAtChar c s = [s] := by
  induction s with
  | nil => rfl
  | cons x xs ih =>
    simp only [mem_cons, not_or] at absent
    simp [splitAtChar, ih absent.2, Ne.symm absent.1]

lemma splitAtChar_append (absent : c ∉ s) (rest : List Char) : splitAtChar c (s ++ c :: rest) = s :: splitAtChar c rest := by
  induction s with
  | nil =>
    simp only [nil_append, splitAtChar]
    split
    next none => exact absurd none (splitAtChar_ne_nil c rest)
    next field fields found => simp [found]
  | cons x xs ih =>
    simp only [mem_cons, not_or] at absent
    simp [splitAtChar, ih absent.2, Ne.symm absent.1]

lemma intercalate_cons_cons (c : Char) (first second : List Char) (rest : List (List Char)) :
  [c].intercalate (first :: second :: rest) = first ++ c :: [c].intercalate (second :: rest) := by
  simp [intercalate]

lemma splitAtChar_intercalate {fields : List (List Char)} (nonempty : fields ≠ [])
  (absent : ∀ f ∈ fields, c ∉ f) : splitAtChar c ([c].intercalate fields) = fields := by
  induction fields with
  | nil => exact absurd rfl nonempty
  | cons first rest ih =>
    obtain ⟨own, later⟩ := forall_mem_cons.mp absent
    cases rest with
    | nil => simpa [intercalate] using splitAtChar_of_not_mem own
    | cons second rest =>
      rw [intercalate_cons_cons, splitAtChar_append own, ih (by simp) later]

lemma octet_text (b : UInt8) : parseOctet (toString b.toNat).toList = some b /\
    (∀ c ∈ (toString b.toNat).toList, (digitValue c).isSome) /\
    ¬ ((toString b.toNat).toList.length = 0 \/ 4 < (toString b.toNat).toList.length) := by
  have all : ∀ n < 256, parseOctet (Nat.toDigits 10 n) = some (UInt8.ofNat n) /\
    (Nat.toDigits 10 n).all (fun c => (digitValue c).isSome) = true /\
    ¬ ((Nat.toDigits 10 n).length = 0 \/ 4 < (Nat.toDigits 10 n).length) := by
    decide +kernel
  have digits : (toString b.toNat).toList = Nat.toDigits 10 b.toNat := by simp
  rw [digits]
  have octet := all b.toNat b.toNat_lt
  rwa [UInt8.ofNat_toNat, List.all_eq_true] at octet

lemma ipv4Text_toList (bytes : List UInt8) :
  (ipv4Text bytes).toList = ['.'].intercalate (bytes.map fun b => (toString b.toNat).toList) := by
  simp only [ipv4Text, String.toList_intercalate, List.map_map, Function.comp_def]
  rfl

lemma parseIPv4Fields_text (four : bytes.length = 4) : parseIPv4Fields (ipv4Text bytes).toList = some bytes := by
  have fields : splitAtChar '.' (ipv4Text bytes).toList = bytes.map fun b => (toString b.toNat).toList := by
    rw [ipv4Text_toList]
    refine splitAtChar_intercalate (ne_nil_of_length_pos (by simp [four])) ?_
    intro f member dot
    obtain ⟨b, -, rfl⟩ := mem_map.mp member
    exact absurd ((octet_text b).2.1 '.' dot) (by decide)
  rw [parseIPv4Fields, fields]
  simp only [length_map, four, if_true]
  clear fields four
  induction bytes with
  | nil => rfl
  | cons b rest ih =>
    rw [map_cons, mapM_cons, (octet_text b).1, ih]
    rfl

def isHex (c : Char) : Bool := (hexValue c).isSome

lemma hexValue_digitChar {d : Nat} (small : d < 16) : hexValue d.digitChar = some d := by
  have all : ∀ d < 16, hexValue d.digitChar = some d := by decide
  exact all d small

def hexFold (digits : List Char) : Nat := digits.foldl (fun n c => n * 16 + (hexValue c).getD 0) 0

lemma toDigits_hex (n : Nat) : (∀ c ∈ Nat.toDigits 16 n, isHex c = true) /\ hexFold (Nat.toDigits 16 n) = n := by
  induction n using Nat.strong_induction_on with
  | _ n ih =>
    by_cases small : n < 16
    · rw [Nat.toDigits_of_lt_base small]
      simp [isHex, hexFold, hexValue_digitChar small]
    · have last : n % 16 < 16 := Nat.mod_lt n (by decide)
      obtain ⟨hex, value⟩ := ih (n / 16) (by omega)
      rw [Nat.toDigits_of_base_le (by decide) (by omega)]
      constructor
      · intro c member
        rcases mem_append.mp member with first | rest
        · exact hex c first
        · rw [mem_singleton.mp rest, isHex, hexValue_digitChar last]
          rfl
      · rw [hexFold, foldl_append]
        change foldl _ (hexFold (Nat.toDigits 16 (n / 16))) _ = n
        rw [value]
        simp only [foldl_cons, foldl_nil, hexValue_digitChar last, getD_some]
        omega

lemma toDigits_ne_nil (n : Nat) : Nat.toDigits 16 n ≠ [] := by
  by_cases small : n < 16
  · simp [Nat.toDigits_of_lt_base small]
  · simp [Nat.toDigits_of_base_le (by decide : 1 < 16) (by omega : 16 <= n)]

lemma toDigits_length (small : n < 65536) : ¬ ((Nat.toDigits 16 n).length = 0 \/ 4 < (Nat.toDigits 16 n).length) := by
  have short := (Nat.length_toDigits_le_iff (by decide : 1 < 16) (by decide : 0 < 4)).mpr
    (by omega : n < 16 ^ 4)
  have long := length_pos_iff.mpr (toDigits_ne_nil n)
  omega

def groupBytes (n : Nat) : List UInt8 := [UInt8.ofNat (n / 256), UInt8.ofNat n]

def Ends (rest : List Char) : Prop := ∀ c ∈ rest.head?, isHex c = false

lemma span_hex {digits rest : List Char} (hex : ∀ c ∈ digits, isHex c = true) (ends : Ends rest) :
  (digits ++ rest).takeWhile (fun c => (hexValue c).isSome) = digits /\
    (digits ++ rest).dropWhile (fun c => (hexValue c).isSome) = rest := by
  change (digits ++ rest).takeWhile isHex = digits /\ (digits ++ rest).dropWhile isHex = rest
  have stop : rest.takeWhile isHex = [] /\ rest.dropWhile isHex = rest := by
    cases rest with
    | nil => exact ⟨rfl, rfl⟩
    | cons c rest =>
      have other : isHex c = false := ends c rfl
      simp [other]
  rw [takeWhile_append_of_pos hex, dropWhile_append_of_pos hex, stop.1, stop.2]
  simp

lemma parseIPv6Groups_last (small : n < 65536) (fuel : Nat) (bytes : List UInt8) (ellipsis : Option Nat) :
  parseIPv6Groups (fuel + 1) (Nat.toDigits 16 n) bytes ellipsis = some (bytes ++ groupBytes n, ellipsis, []) := by
  obtain ⟨hex, value⟩ := toDigits_hex n
  have span := span_hex hex (by simp [Ends] : Ends [])
  rw [append_nil] at span
  rw [hexFold] at value
  simp only [parseIPv6Groups, span.1, span.2, if_neg (toDigits_length small), value, groupBytes]

lemma parseIPv6Groups_next (small : n < 65536) (fuel : Nat) (bytes : List UInt8)
  (ellipsis : Option Nat) {more : List Char} (hex : ∃ c ∈ more.head?, isHex c = true) :
  parseIPv6Groups (fuel + 1) (Nat.toDigits 16 n ++ ':' :: more) bytes ellipsis =
    parseIPv6Groups fuel more (bytes ++ groupBytes n) ellipsis := by
  obtain ⟨digits, value⟩ := toDigits_hex n
  have span := span_hex digits (by simp [Ends]; decide : Ends (':' :: more))
  rw [hexFold] at value
  obtain ⟨c, head, isHex_⟩ := hex
  cases more with
  | nil => cases head
  | cons x more =>
    obtain rfl := some.inj head
    have plain : x ≠ ':' := by
      rintro rfl
      revert isHex_
      decide
    simp only [parseIPv6Groups, span.1, span.2, if_neg (toDigits_length small), value, groupBytes]
    split <;> simp_all

lemma parseIPv6Groups_ellipsis (small : n < 65536) (fuel : Nat) (bytes : List UInt8) (more : List Char) :
  parseIPv6Groups (fuel + 1) (Nat.toDigits 16 n ++ ':' :: ':' :: more) bytes none =
    if more = [] then some (bytes ++ groupBytes n, some (bytes ++ groupBytes n).length, [])
    else parseIPv6Groups fuel more (bytes ++ groupBytes n) (some (bytes ++ groupBytes n).length) := by
  obtain ⟨digits, value⟩ := toDigits_hex n
  have span := span_hex digits (by simp [Ends]; decide : Ends (':' :: ':' :: more))
  rw [hexFold] at value
  simp only [parseIPv6Groups, span.1, span.2, if_neg (toDigits_length small), value, groupBytes]
  simp

def joined (groups : List Nat) : List Char := [':'].intercalate (groups.map (Nat.toDigits 16))

lemma joined_cons_cons (n m : Nat) (groups : List Nat) :
  joined (n :: m :: groups) = Nat.toDigits 16 n ++ ':' :: joined (m :: groups) :=
  intercalate_cons_cons ':' _ _ _

lemma joined_singleton (n : Nat) : joined [n] = Nat.toDigits 16 n := by
  simp [joined, intercalate]

lemma joined_head (n : Nat) (groups : List Nat) (rest : List Char) :
  ∃ c ∈ (joined (n :: groups) ++ rest).head?, isHex c = true := by
  obtain ⟨c, digits, first⟩ := exists_cons_of_ne_nil (toDigits_ne_nil n)
  refine ⟨c, ?_, (toDigits_hex n).1 c (by simp [first])⟩
  cases groups with
  | nil => simp [joined_singleton, first]
  | cons m groups => simp [joined_cons_cons, first]

lemma parseIPv6Groups_joined (small : ∀ n ∈ groups, n < 65536) (nonempty : groups ≠ [])
  {fuel : Nat} (enough : groups.length <= fuel) (bytes : List UInt8) (ellipsis : Option Nat) :
  parseIPv6Groups fuel (joined groups) bytes ellipsis = some (bytes ++ groups.flatMap groupBytes, ellipsis, []) := by
  induction groups generalizing fuel bytes with
  | nil => exact absurd rfl nonempty
  | cons n rest ih =>
    obtain ⟨own, later⟩ := forall_mem_cons.mp small
    obtain ⟨fuel, rfl⟩ := Nat.exists_eq_add_of_lt (Nat.lt_of_lt_of_le (Nat.succ_pos _) enough)
    rw [Nat.zero_add] at enough ⊢
    cases rest with
    | nil =>
      rw [joined_singleton, parseIPv6Groups_last own]
      simp
    | cons m rest =>
      have head := joined_head m rest []
      rw [append_nil] at head
      rw [joined_cons_cons, parseIPv6Groups_next own _ _ _ head, ih later (by simp) (by simpa using enough)]
      simp

lemma parseIPv6Groups_joined_ellipsis (small : ∀ n ∈ groups, n < 65536) (nonempty : groups ≠ [])
  (fuel : Nat) (bytes : List UInt8) (more : List Char) :
  parseIPv6Groups (groups.length + fuel) (joined groups ++ ':' :: ':' :: more) bytes none =
    let read := bytes ++ groups.flatMap groupBytes
    if more = [] then some (read, some read.length, [])
    else parseIPv6Groups fuel more read (some read.length) := by
  induction groups generalizing bytes with
  | nil => exact absurd rfl nonempty
  | cons n rest ih =>
    obtain ⟨own, later⟩ := forall_mem_cons.mp small
    cases rest with
    | nil =>
      rw [joined_singleton, length_singleton, Nat.add_comm, parseIPv6Groups_ellipsis own]
      simp
    | cons m rest =>
      have head := joined_head m rest (':' :: ':' :: more)
      have length : (n :: m :: rest).length + fuel = ((m :: rest).length + fuel) + 1 := by
        simp only [length_cons]
        omega
      rw [joined_cons_cons, length, append_assoc, cons_append, parseIPv6Groups_next own _ _ _ head, ih later (by simp)]
      simp [append_assoc]

lemma octet_hex (b : UInt8) : ∀ c ∈ (toString b.toNat).toList, isHex c = true := by
  intro c member
  have digit := (octet_text b).2.1 c member
  unfold digitValue at digit
  split at digit
  next range => simp [isHex, hexValue, range]
  · cases digit

lemma parseIPv6Groups_v4 {v4 : List UInt8} (four : v4.length = 4) (fuel : Nat) {ellipsis : Option Nat}
  (room : ¬ ((ellipsis = none /\ bytes.length ≠ 12) \/ 16 < bytes.length + 4)) :
  parseIPv6Groups (fuel + 1) (ipv4Text v4).toList bytes ellipsis = some (bytes ++ v4, ellipsis, []) := by
  obtain ⟨first, more, rfl⟩ := exists_cons_of_length_pos (by omega : 0 < v4.length)
  obtain ⟨second, rest, rfl⟩ := exists_cons_of_length_pos (by simp only [length_cons] at four; omega : 0 < more.length)
  have fields := parseIPv4Fields_text four
  obtain ⟨tail, text⟩ : ∃ tail, (ipv4Text (first :: second :: rest)).toList = (toString first.toNat).toList ++ '.' :: tail :=
    ⟨_, by rw [ipv4Text_toList, map_cons, map_cons, intercalate_cons_cons]⟩
  have short := (octet_text first).2.2
  have span := span_hex (octet_hex first) (by simp [Ends]; decide : Ends ('.' :: tail))
  rw [<- text] at span
  simp only [parseIPv6Groups, span.1, span.2, if_neg short, if_neg room, fields, map_some]

lemma ipv6Groups_spec (even : bytes.length % 2 = 0) : (ipv6Groups bytes).flatMap groupBytes = bytes /\
    (ipv6Groups bytes).length * 2 = bytes.length /\ ∀ n ∈ ipv6Groups bytes, n < 65536 := by
  fun_induction ipv6Groups bytes with
  | case1 high low rest ih =>
    obtain ⟨back, length, small⟩ := ih (by simp only [length_cons] at even; omega)
    have highLt := high.toNat_lt
    have lowLt := low.toNat_lt
    refine ⟨?_, ?_, ?_⟩
    · have first : (high.toNat * 256 + low.toNat) / 256 = high.toNat := by omega
      have second : UInt8.ofNat (high.toNat * 256 + low.toNat) = low := by
        apply UInt8.toNat_inj.mp
        rw [UInt8.toNat_ofNat']
        omega
      simp [groupBytes, first, second, back]
    · simp only [length_cons]
      omega
    · intro n member
      rcases mem_cons.mp member with rfl | later
      · omega
      · exact small n later
  | case2 bytes short =>
    cases bytes with
    | nil => simp
    | cons a rest =>
      cases rest with
      | nil => simp at even
      | cons b rest => exact absurd rfl (short a b rest)

lemma longestZeros_spec {start run : Nat} (found : longestZeros groups = some (start, run)) :
  2 <= run /\ groups = groups.take start ++ replicate run 0 ++ groups.drop (start + run) := by
  have zeros : 2 <= run /\ run = ((groups.drop start).takeWhile (· == 0)).length := by
    have kept : ∀ best : Nat × Nat, longestZeros groups = some best ->
      2 <= best.2 /\ best.2 = ((groups.drop best.1).takeWhile (· == 0)).length := by
      refine foldlRecOn (motive := fun found => ∀ best : Nat × Nat, found = some best ->
        2 <= best.2 /\ best.2 = ((groups.drop best.1).takeWhile (· == 0)).length) _ _ nofun ?_
      intro best ih i _ result
      dsimp only
      split
      next longer =>
        intro same
        obtain rfl := some.inj same
        exact ⟨longer.1, rfl⟩
      · exact ih result
    exact kept (start, run) found
  obtain ⟨long, length⟩ := zeros
  refine ⟨long, ?_⟩
  have all : (groups.drop start).takeWhile (· == 0) = replicate run 0 := by
    rw [eq_replicate_iff]
    refine ⟨length.symm, fun n member => ?_⟩
    simpa using mem_takeWhile_imp member
  have whole : replicate run 0 ++ (groups.drop start).dropWhile (· == 0) = groups.drop start := by
    rw [<- all, takeWhile_append_dropWhile]
  have rest : (groups.drop start).dropWhile (· == 0) = groups.drop (start + run) := by
    have dropped := congrArg (drop run) whole
    rwa [drop_left' length_replicate, drop_drop] at dropped
  rw [append_assoc, <- rest, whole, take_append_drop]

lemma ipv6Text_toList (groups : List Nat) : (ipv6Text groups).toList = match longestZeros groups with
    | none => joined groups
    | some (start, run) =>
      joined (groups.take start) ++ ':' :: ':' :: joined (groups.drop (start + run)) := by
  have text (part : List Nat) : (":".intercalate (part.map hexDigits)).toList = joined part := by
    simp only [String.toList_intercalate, List.map_map, joined, hexDigits, Function.comp_def, String.toList_ofList]
    rfl
  unfold ipv6Text
  split
  next none => simp only [none, text]
  next start run found =>
    simp only [found, String.toList_append, text, append_assoc]
    rfl

lemma flatMap_zeros (run : Nat) : (replicate run 0).flatMap groupBytes = replicate (2 * run) 0 := by
  induction run with
  | zero => rfl
  | succ run ih =>
    rw [replicate_succ, flatMap_cons, ih, Nat.mul_succ, Nat.add_comm (2 * run) 2, <- replicate_append_replicate]
    rfl

lemma flatMap_groupBytes_length (groups : List Nat) : (groups.flatMap groupBytes).length = 2 * groups.length := by
  induction groups with
  | nil => rfl
  | cons n rest ih =>
    rw [flatMap_cons, length_append, ih, length_cons]
    simp only [groupBytes, length_cons, length_nil]
    omega

lemma parseIPv6_start (head : ∃ c ∈ s.head?, isHex c = true) : parseIPv6 s = match parseIPv6Groups 8 s [] none with
    | some (bytes, none, []) => if bytes.length = 16 then some bytes else none
    | some (bytes, some i, []) =>
      if bytes.length < 16 then
        some (bytes.take i ++ replicate (16 - bytes.length) 0 ++ bytes.drop i)
      else none
    | _ => none := by
  obtain ⟨c, first, hex⟩ := head
  cases s with
  | nil => cases first
  | cons x rest =>
    obtain rfl := some.inj first
    have plain : x ≠ ':' := by
      rintro rfl
      revert hex
      decide
    unfold parseIPv6
    split
    next other => simp_all
    · simp only [Prod.mk.injEq, reduceCtorEq, false_and, if_false]
      rcases parseIPv6Groups 8 (x :: rest) [] none with _ | ⟨bytes, _ | i, _ | _⟩ <;> rfl

lemma parseIPv6_double {more : List Char} (nonempty : more ≠ [])
  (read : parseIPv6Groups 8 more [] (some 0) = some (bytes, some 0, []))
  (short : bytes.length < 16) :
  parseIPv6 (':' :: ':' :: more) = some (replicate (16 - bytes.length) 0 ++ bytes) := by
  simp [parseIPv6, nonempty, read, short]

lemma joined_eq_nil_iff : joined groups = [] ↔ groups = [] := by
  cases groups with
  | nil => simp [joined, intercalate]
  | cons n rest =>
    obtain ⟨c, head, -⟩ := joined_head n rest []
    refine iff_of_false (fun empty => ?_) (by simp)
    rw [empty] at head
    cases head

lemma parseIPv6_compressed {first last : List Nat} {run : Nat} (long : 2 <= run)
  (eight : first.length + run + last.length = 8) (small : ∀ n ∈ first, n < 65536)
  (small' : ∀ n ∈ last, n < 65536) :
  parseIPv6 (joined first ++ ':' :: ':' :: joined last) = some ((first ++ replicate run 0 ++ last).flatMap groupBytes) := by
  have firstLength := flatMap_groupBytes_length first
  have lastLength := flatMap_groupBytes_length last
  rw [flatMap_append, flatMap_append, flatMap_zeros]
  cases first with
  | nil =>
    simp only [length_nil, Nat.zero_add] at eight
    by_cases empty : last = []
    · obtain rfl := empty
      obtain rfl : run = 8 := by simpa using eight
      decide
    · have read := parseIPv6Groups_joined small' empty (by omega : last.length <= 8) [] (some 0)
      rw [nil_append] at read
      have zeros : 16 - (last.flatMap groupBytes).length = 2 * run := by omega
      have parsed := parseIPv6_double (mt joined_eq_nil_iff.mp empty) read (by omega)
      rw [zeros] at parsed
      simpa [joined, intercalate] using parsed
  | cons n rest =>
    generalize whole : (n :: rest) = first at *
    have fuel : first.length + (8 - first.length) = 8 := by omega
    have read := parseIPv6Groups_joined_ellipsis small (by simp [<- whole]) (8 - first.length) []
      (joined last)
    rw [fuel] at read
    rw [parseIPv6_start (whole ▸ joined_head n rest _), read]
    by_cases empty : last = []
    · obtain rfl := empty
      have zeros : 16 - (first.flatMap groupBytes).length = 2 * run := by
        simp only [length_nil] at eight
        omega
      have short : (first.flatMap groupBytes).length < 16 := by omega
      simp only [nil_append, joined_eq_nil_iff.mpr rfl, if_true, if_pos short, zeros, take_length, drop_length, flatMap_nil]
    · have later := parseIPv6Groups_joined small' empty (by omega : last.length <= 8 - first.length)
        (first.flatMap groupBytes) (some (first.flatMap groupBytes).length)
      have short : (first.flatMap groupBytes ++ last.flatMap groupBytes).length < 16 := by
        rw [length_append]
        omega
      have zeros : 16 - (first.flatMap groupBytes ++ last.flatMap groupBytes).length = 2 * run := by
        rw [length_append]
        omega
      simp only [nil_append, if_neg (mt joined_eq_nil_iff.mp empty), later, if_pos short, zeros, take_left, drop_left]

lemma parseIPv6_text (sixteen : bytes.length = 16) : parseIPv6 (ipv6Text (ipv6Groups bytes)).toList = some bytes := by
  obtain ⟨back, length, small⟩ := ipv6Groups_spec (by omega : bytes.length % 2 = 0)
  rw [ipv6Text_toList]
  split
  · obtain ⟨n, rest, groups⟩ := exists_cons_of_length_pos (by omega : 0 < (ipv6Groups bytes).length)
    have head := joined_head n rest []
    rw [append_nil, <- groups] at head
    rw [parseIPv6_start head, parseIPv6Groups_joined small (by simp [groups]) (by omega), back]
    simp [sixteen]
  next start run found =>
    obtain ⟨long, parts⟩ := longestZeros_spec found
    have lengths := congrArg List.length parts
    rw [length_append, length_append, length_replicate] at lengths
    rw [parseIPv6_compressed long (by omega) (fun n member => small n (mem_of_mem_take member))
      (fun n member => small n (mem_of_mem_drop member)), <- parts, back]

structure Addr.Valid (a : Addr) : Prop where
  length : a.as16.length = 16
  mapped : a.isV4 = true -> a.as16.take 12 = mappedHead

lemma find?_separator {sep other : Char} (separators : ∀ c : Char, (c == '.' || c == ':') = true ↔ c = sep \/ c = other)
  (absent : other ∉ s) (present : sep ∈ s) :
  (s.find? fun c => c == '.' || c == ':') = some sep := by
  cases found : s.find? fun c => c == '.' || c == ':' with
  | none => exact absurd ((separators sep).mpr (.inl rfl)) (find?_eq_none.mp found sep present)
  | some c =>
    have member := mem_of_find?_eq_some found
    have one := (separators c).mp (by simpa using find?_some found)
    rcases one with rfl | rfl
    · rfl
    · exact absurd member absent

lemma mem_intercalate {sep : Char} {fields : List (List Char)}
  (member : c ∈ [sep].intercalate fields) : c = sep \/ ∃ f ∈ fields, c ∈ f := by
  induction fields with
  | nil => simp [intercalate] at member
  | cons first rest ih =>
    cases rest with
    | nil =>
      refine .inr ⟨first, by simp, ?_⟩
      simpa [intercalate] using member
    | cons second rest =>
      rw [intercalate_cons_cons, mem_append, mem_cons] at member
      rcases member with own | rfl | later
      · exact .inr ⟨first, by simp, own⟩
      · exact .inl rfl
      · rcases ih later with same | ⟨f, listed, inside⟩
        · exact .inl same
        · exact .inr ⟨f, by simp [listed], inside⟩

lemma mem_joined (member : c ∈ joined groups) : c = ':' \/ isHex c = true := by
  rcases mem_intercalate member with same | ⟨f, listed, inside⟩
  · exact .inl same
  · obtain ⟨n, -, rfl⟩ := mem_map.mp listed
    exact .inr ((toDigits_hex n).1 c inside)

lemma mem_ipv6Text (member : c ∈ (ipv6Text groups).toList) : c = ':' \/ isHex c = true := by
  rw [ipv6Text_toList] at member
  split at member
  · exact mem_joined member
  · simp only [mem_append, mem_cons] at member
    rcases member with front | same | same | back
    · exact mem_joined front
    · exact .inl same
    · exact .inl same
    · exact mem_joined back

lemma colon_mem_ipv6Text (two : 2 <= groups.length) : ':' ∈ (ipv6Text groups).toList := by
  rw [ipv6Text_toList]
  split
  · obtain ⟨n, more, rfl⟩ := exists_cons_of_length_pos (by omega : 0 < groups.length)
    obtain ⟨m, rest, rfl⟩ := exists_cons_of_length_pos (by simp only [length_cons] at two; omega : 0 < more.length)
    simp [joined_cons_cons]
  · simp

lemma mem_ipv4Text (member : c ∈ (ipv4Text bytes).toList) : c = '.' \/ (digitValue c).isSome = true := by
  rw [ipv4Text_toList] at member
  rcases mem_intercalate member with same | ⟨f, listed, inside⟩
  · exact .inl same
  · obtain ⟨b, -, rfl⟩ := mem_map.mp listed
    exact .inr ((octet_text b).2.1 c inside)

lemma dot_mem_ipv4Text (four : bytes.length = 4) : '.' ∈ (ipv4Text bytes).toList := by
  obtain ⟨first, more, rfl⟩ := exists_cons_of_length_pos (by omega : 0 < bytes.length)
  obtain ⟨second, rest, rfl⟩ := exists_cons_of_length_pos (by simp only [length_cons] at four; omega : 0 < more.length)
  rw [ipv4Text_toList, map_cons, map_cons, intercalate_cons_cons]
  simp

lemma ipv4Text_head (four : bytes.length = 4) : ∃ c ∈ (ipv4Text bytes).toList.head?, isHex c = true := by
  obtain ⟨first, more, rfl⟩ := exists_cons_of_length_pos (by omega : 0 < bytes.length)
  obtain ⟨c, digits, octet⟩ := exists_cons_of_length_pos (Nat.pos_of_ne_zero (not_or.mp (octet_text first).2.2).1)
  refine ⟨c, ?_, octet_hex first c (octet ▸ mem_cons_self)⟩
  rw [ipv4Text_toList, map_cons, octet]
  cases more <;> simp [intercalate]

lemma parseIPv6_mapped {v4 : List UInt8} (four : v4.length = 4) :
  parseIPv6 ("::ffff:" ++ ipv4Text v4).toList = some (replicate 10 0 ++ ([0xff, 0xff] ++ v4)) := by
  have text : ("::ffff:" ++ ipv4Text v4).toList = ':' :: ':' :: (Nat.toDigits 16 65535 ++ ':' :: (ipv4Text v4).toList) := by
    rw [String.toList_append]
    rfl
  have read : parseIPv6Groups 8 (Nat.toDigits 16 65535 ++ ':' :: (ipv4Text v4).toList) [] (some 0) =
    some ([0xff, 0xff] ++ v4, some 0, []) := by
    rw [parseIPv6Groups_next (by decide) 7 [] (some 0) (ipv4Text_head four),
      parseIPv6Groups_v4 four 6 (by decide)]
    rfl
  have ten : 16 - ([0xff, 0xff] ++ v4).length = 10 := by simp [four]
  rw [text, parseIPv6_double (by simp) read (by simp [four]), ten]

section

variable {a : Addr} {α β : Type} {f : α -> Option β} {l : List α} {results : List β}

lemma parseAddr_text (valid : a.Valid) : parseAddr a.text.toList = some a := by
  have four : (a.as16.drop 12).length = 4 := by simp [valid.length]
  obtain ⟨isV4, as16⟩ := a
  cases isV4 with
  | true =>
    have mapped : mappedHead ++ as16.drop 12 = as16 := by
      rw [<- valid.mapped rfl, take_append_drop]
    have percent : '%' ∉ (ipv4Text (as16.drop 12)).toList := fun member =>
      (mem_ipv4Text member).elim (by decide) (by decide)
    have colon : ':' ∉ (ipv4Text (as16.drop 12)).toList := fun member =>
      (mem_ipv4Text member).elim (by decide) (by decide)
    have found := find?_separator (by simp) colon (dot_mem_ipv4Text four)
    simp only [Addr.text, Addr.bytes, if_true, parseAddr, if_neg percent, found, parseIPv4Fields_text four, map_some]
    rw [<- mappedHead, mapped]
  | false =>
    by_cases mapped : ({ isV4 := false, as16 } : Addr).is4In6 = true
    · have head : as16.take 12 = mappedHead := by simpa [Addr.is4In6] using mapped
      have percent : '%' ∉ ("::ffff:" ++ ipv4Text (as16.drop 12)).toList := by
        rw [String.toList_append, mem_append]
        rintro (front | tail)
        · revert front
          decide
        · exact (mem_ipv4Text tail).elim (by decide) (by decide)
      have found : (("::ffff:" ++ ipv4Text (as16.drop 12)).toList.find? fun c => c == '.' || c == ':') = some ':' := by
        rw [String.toList_append]
        rfl
      simp only [Addr.text, Bool.false_eq_true, if_false, mapped, if_true, parseAddr, if_neg percent,
        found, parseIPv6_mapped four, map_some]
      rw [<- append_assoc, <- mappedHead, <- head, take_append_drop]
    · have length := (ipv6Groups_spec (by rw [valid.length] : as16.length % 2 = 0)).2.1
      have percent : '%' ∉ (ipv6Text (ipv6Groups as16)).toList := fun member =>
        (mem_ipv6Text member).elim (by decide) (by decide)
      have dot : '.' ∉ (ipv6Text (ipv6Groups as16)).toList := fun member =>
        (mem_ipv6Text member).elim (by decide) (by decide)
      have found := find?_separator (fun c => by simp [or_comm]) dot
        (colon_mem_ipv6Text (by rw [valid.length] at length; omega))
      simp only [Addr.text, Bool.false_eq_true, if_false, mapped, parseAddr, if_neg percent, found,
        parseIPv6_text valid.length, map_some]

lemma map_of_mapM (read : l.mapM f = some results) : l.map f = results.map some := by
  induction l generalizing results with
  | nil =>
    obtain rfl : [] = results := by simpa using read
    rfl
  | cons first rest ih =>
    rw [mapM_cons, bind_eq_bind, bind_eq_some_iff] at read
    obtain ⟨b, here, read⟩ := read
    rw [bind_eq_bind, bind_eq_some_iff] at read
    obtain ⟨others, later, rfl⟩ := by simpa using read
    simp [here, ih later]

lemma parseIPv4Fields_length (read : parseIPv4Fields s = some bytes) : bytes.length = 4 := by
  simp only [parseIPv4Fields] at read
  split at read
  next four => simpa [four] using (congrArg length (map_of_mapM read)).symm
  · cases read

lemma parseIPv6_length (read : parseIPv6 s = some bytes) : bytes.length = 16 := by
  unfold parseIPv6 at read
  extract_lets start at read
  split at read
  · obtain rfl := some.inj read
    rfl
  · split at read
    next bytes' ellipsis groups =>
      split at read
      · split at read
        next whole => exact some.inj read ▸ whole
        · cases read
      next i =>
        split at read
        next short =>
          obtain rfl := some.inj read
          simp
          omega
        · cases read
    · cases read

lemma parseAddr_valid (read : parseAddr s = some a) : a.Valid := by
  unfold parseAddr at read
  split at read
  · cases read
  · split at read
    · obtain ⟨v4, fields, rfl⟩ := map_eq_some_iff.mp read
      have four := parseIPv4Fields_length fields
      exact ⟨by simp [four], fun _ => rfl⟩
    · obtain ⟨bytes, groups, rfl⟩ := map_eq_some_iff.mp read
      exact ⟨parseIPv6_length groups, nofun⟩
    · cases read

end

lemma NetPrefix.parse_valid {s : String} {p : NetPrefix} (read : NetPrefix.parse s = some p) :
  p.addr.Valid := by
  obtain ⟨⟨a, bits⟩, parsed, rfl⟩ := map_eq_some_iff.mp read
  simp only [parsePrefix, bind_eq_bind, bind_eq_some_iff] at parsed
  obtain ⟨digits, -, parsed⟩ := parsed
  split at parsed
  · cases parsed
  · obtain ⟨addr, own, parsed⟩ := bind_eq_some_iff.mp parsed
    split at parsed
    · cases parsed
    · obtain ⟨n, -, parsed⟩ := bind_eq_some_iff.mp parsed
      obtain ⟨-, same⟩ := ite_none_right_eq_some.mp parsed
      obtain ⟨rfl, rfl⟩ := Prod.mk.inj (some.inj same)
      exact parseAddr_valid own

-- As net/netip has it: an IPv6 address may carry a zone.
structure ZonedAddr where
  addr : Addr
  zone : List Char
  deriving DecidableEq, Repr

def ZonedAddr.parse (s : String) : Option ZonedAddr := let body := s.toList.takeWhile (· ≠ '%')
  match s.toList.dropWhile (· ≠ '%') with
  | [] => (parseAddr body).map fun addr => { addr, zone := [] }
  | _ :: zone =>
    if zone = [] then none
    else ((parseAddr body).filter fun addr => !addr.isV4).map fun addr => { addr, zone }

def ZonedAddr.text (a : ZonedAddr) : String :=
  if a.zone = [] then a.addr.text else a.addr.text ++ "%" ++ String.ofList a.zone

lemma ZonedAddr.parse_valid {s : String} {a : ZonedAddr} (read : ZonedAddr.parse s = some a) :
  a.addr.Valid := by
  unfold ZonedAddr.parse at read
  split at read
  · obtain ⟨addr, parsed, rfl⟩ := map_eq_some_iff.mp read
    exact parseAddr_valid parsed
  · split at read
    · cases read
    · obtain ⟨addr, parsed, rfl⟩ := map_eq_some_iff.mp read
      exact parseAddr_valid (filter_eq_some_iff.mp parsed).1

lemma ZonedAddr.parse_text {a : Addr} (valid : a.Valid) : ZonedAddr.parse a.text = some { addr := a, zone := [] } := by
  have read := parseAddr_text valid
  have percent : '%' ∉ a.text.toList := by
    intro member
    rw [parseAddr, if_pos member] at read
    cases read
  have all : ∀ c ∈ a.text.toList, decide (c ≠ '%') = true := by
    intro c member
    exact decide_eq_true fun same => percent (same ▸ member)
  have whole : a.text.toList.takeWhile (· ≠ '%') = a.text.toList := takeWhile_eq_self_iff.mpr all
  have rest : a.text.toList.dropWhile (· ≠ '%') = [] := dropWhile_eq_nil_iff.mpr all
  simp only [ZonedAddr.parse, whole, rest, read, map_some]

example : (ZonedAddr.parse "FE80:0:0::1%eth0").map ZonedAddr.text = some "fe80::1%eth0" := by
  decide +kernel

end Ectobase.Shared
